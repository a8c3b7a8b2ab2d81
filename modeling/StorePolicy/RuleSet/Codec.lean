import StorePolicy.Decode.JsonText
import StorePolicy.Decode.JsonValue
import StorePolicy.Decode.YamlText
import StorePolicy.Decode.YamlValue
import StorePolicy.Rule.Codec
import StorePolicy.RuleSet

/-!
# Written forms of rule-sets

All fields of a rule-set may be left out, and a blank YAML text is the empty rule-set.
-/
namespace StorePolicy.RuleSet

def toJson (s : RuleSet) : Json :=
  .obj [("version", .str s.version), ("last_updated", .str s.lastUpdated),
    ("rules", .arr (s.rules.map Rule.toJson))]

structure Draft where
  version : Option String
  lastUpdated : Option String
  rules : Option (List Rule)

variable {ν : Type}

def fields (d : Dialect ν) : List (Field ν Draft) :=
  [.of "version" false (·.version) (fun s t => { s with version := some t }) d.text,
    .of "last_updated" false (·.lastUpdated) (fun s t => { s with lastUpdated := some t }) d.text,
    .of "rules" false (·.rules) (fun s rs => { s with rules := some rs }) (d.list (Rule.read d))]

def schema (d : Dialect ν) : Schema ν Draft RuleSet :=
  ⟨"struct RuleConfig", fields d, ⟨none, none, none⟩, fun s =>
    ⟨s.version.getD defaultVersion, s.lastUpdated.getD "", s.rules.getD []⟩⟩

def read (d : Dialect ν) (v : ν) : Read RuleSet := (schema d).read d v

def ofJsonText (s : String) : Read RuleSet := JsonText.read (read JsonText.dialect) s

def ofYamlText (s : String) : Read RuleSet :=
  if Text.blank s then .ok empty else YamlText.read (read YamlText.dialect) s

def ofJson (j : Json) : Read RuleSet := read JsonValue.dialect j

def ofYaml (v : Value) : Read RuleSet := read YamlValue.dialect v

end StorePolicy.RuleSet

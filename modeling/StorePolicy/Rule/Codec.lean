import StorePolicy.Condition.Codec
import StorePolicy.Rule

/-!
# Written forms of rules

A rule is a record. Its platform, its severity and whether it can be mended by itself
may be left out, and so may its source and its suggestion, which are then not written.
-/
namespace StorePolicy.Rule

def optionalMember (name : String) : Option String → List (String × Json)
  | some s => [(name, .str s)]
  | none => []

def members (r : Rule) : List (String × Json) :=
  [("id", .str r.id), ("platform", .str r.platform.name), ("title", .str r.title),
    ("description", .str r.description), ("severity", .str r.severity.name),
    ("category", .str r.category)] ++
  optionalMember "source_url" r.sourceUrl ++
  [("auto_fixable", .bool r.autoFixable)] ++
  optionalMember "suggestion" r.suggestion ++
  [("conditions", .arr (Condition.toJsons r.conditions))]

def toJson (r : Rule) : Json := .obj r.members

structure Draft where
  id : Option String
  platform : Option Platform
  title : Option String
  description : Option String
  severity : Option Severity
  category : Option String
  sourceUrl : Option (Option String)
  autoFixable : Option Bool
  suggestion : Option (Option String)
  conditions : Option (List Condition)

def Draft.empty : Draft := ⟨none, none, none, none, none, none, none, none, none, none⟩

variable {ν : Type}

def readPlatform (d : Dialect ν) (v : ν) : Read Platform :=
  (d.choice (Platform.all.map Platform.name) v).map fun s => (Platform.ofName? s).getD .both

def readSeverity (d : Dialect ν) (v : ν) : Read Severity :=
  (d.choice (Severity.all.map Severity.name) v).map fun s => (Severity.ofName? s).getD .major

def readOptionalText (d : Dialect ν) (v : ν) : Read (Option String) := do
  match ← d.optional v with
  | none => return none
  | some v => return some (← d.text v)

def fields (d : Dialect ν) : List (Field ν Draft) :=
  [.of "id" true (·.id) (fun r s => { r with id := some s }) d.text,
    .of "platform" false (·.platform) (fun r p => { r with platform := some p }) (readPlatform d),
    .of "title" true (·.title) (fun r s => { r with title := some s }) d.text,
    .of "description" true (·.description) (fun r s => { r with description := some s }) d.text,
    .of "severity" false (·.severity) (fun r s => { r with severity := some s }) (readSeverity d),
    .of "category" true (·.category) (fun r s => { r with category := some s }) d.text,
    .of "source_url" false (·.sourceUrl) (fun r s => { r with sourceUrl := some s }) (readOptionalText d),
    .of "auto_fixable" false (·.autoFixable) (fun r b => { r with autoFixable := some b }) d.flag,
    .of "suggestion" false (·.suggestion) (fun r s => { r with suggestion := some s }) (readOptionalText d),
    .of "conditions" true (·.conditions) (fun r cs => { r with conditions := some cs })
      (d.list (Condition.read d))]

def build (d : Draft) : Rule where
  id := d.id.getD ""
  platform := d.platform.getD .both
  title := d.title.getD ""
  description := d.description.getD ""
  severity := d.severity.getD .major
  category := d.category.getD ""
  sourceUrl := d.sourceUrl.getD none
  autoFixable := d.autoFixable.getD false
  suggestion := d.suggestion.getD none
  conditions := d.conditions.getD []

def schema (d : Dialect ν) : Schema ν Draft Rule := ⟨"struct Rule", fields d, .empty, build⟩

def read (d : Dialect ν) (v : ν) : Read Rule := (schema d).read d v

end StorePolicy.Rule

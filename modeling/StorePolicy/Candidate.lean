import StorePolicy.Decode.YamlValue
import StorePolicy.Rule.Codec

/-!
# Candidate rules

A candidate is a rule that was authored elsewhere. It says where it comes from: the
address of the policy, a quote from it, and the reasoning behind the rule. In documents these
stand under `metadata` beside the fields of the rule.
-/
namespace StorePolicy

structure RuleMetadata where
  sourceUrl : String
  quote : String
  reasoning : String
deriving DecidableEq, Inhabited

structure PolicyRule where
  rule : Rule
  metadata : RuleMetadata
deriving Inhabited

namespace RuleMetadata

def toJson (m : RuleMetadata) : Json :=
  .obj [("source_url", .str m.sourceUrl), ("quote", .str m.quote), ("ai_reasoning", .str m.reasoning)]

structure Draft where
  sourceUrl : Option String
  quote : Option String
  reasoning : Option String

variable {ν : Type}

def fields (d : Dialect ν) : List (Field ν Draft) :=
  [.of "source_url" true (·.sourceUrl) (fun m s => { m with sourceUrl := some s }) d.text,
    .of "quote" true (·.quote) (fun m s => { m with quote := some s }) d.text,
    { Field.of "ai_reasoning" true (·.reasoning) (fun m s => { m with reasoning := some s }) d.text with
      aliases := ["reasoning"] }]

def schema (d : Dialect ν) : Schema ν Draft RuleMetadata :=
  ⟨"struct RuleMetadata", fields d, ⟨none, none, none⟩, fun m =>
    ⟨m.sourceUrl.getD "", m.quote.getD "", m.reasoning.getD ""⟩⟩

def read (d : Dialect ν) (v : ν) : Read RuleMetadata := (schema d).read d v

end RuleMetadata

namespace PolicyRule

def id (r : PolicyRule) : String := r.rule.id

def toJson (r : PolicyRule) : Json := .obj (r.rule.members ++ [("metadata", r.metadata.toJson)])

def title : String := "struct PolicyRule"

def metadataKey : String := "metadata"

variable {ν : Type}

def collect (d : Dialect ν) : Option RuleMetadata → List (String × Value) → List (Entry ν) →
    Read (RuleMetadata × List (String × Value))
  | none, _, [] => d.refuse (.missingField metadataKey)
  | some m, others, [] => pure (m, others.reverse)
  | m, others, e :: rest => do
    match ← e.label with
    | .name key =>
      if key = metadataKey then
        if m.isSome then d.refuse (.duplicateField metadataKey)
        else collect d (some (← d.within e.step (RuleMetadata.read d e.value))) others rest
      else collect d m ((key, ← d.within e.step (d.content e.value)) :: others) rest
    | .index _ => collect d m others rest

def ruleOfContent (w : Wording) (entries : List (String × Value)) : Read Rule :=
  let d := Content.dialect w
  let schema := Rule.schema d
  let known := entries.filter fun e => schema.fields.any (·.named e.1)
  schema.readNamed d (known.map fun e => ⟨pure (.name e.1), .unknown, e.2⟩)

def read (d : Dialect ν) (v : ν) : Read PolicyRule := do
  match ← d.record title v with
  | .named es =>
    let (metadata, others) ← collect d none [] es
    return ⟨← ruleOfContent d.wording others, metadata⟩
  | .listed _ => d.refuse (.mismatch .seq title)

def ofYaml (v : Value) : Read PolicyRule := read YamlValue.dialect v

end PolicyRule
end StorePolicy

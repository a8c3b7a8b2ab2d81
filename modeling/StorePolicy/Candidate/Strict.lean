import StorePolicy.Candidate
import StorePolicy.Check.Build

/-!
# The strict schema

A candidate may be merged if its id is made of capital letters, digits and low lines with a
letter among them, its rule is valid, no text is blank, and it has conditions, all of which
build and look at targets inside the project.
-/
namespace StorePolicy

namespace PolicyRule

def isIdChar (c : Char) : Bool := c.isUpper || c.isDigit || c = '_'

def validateId (id : String) : Except SchemaFault Unit :=
  let cs := id.toList
  if cs.isEmpty then .error (.invalidId id "id must not be empty")
  else if !cs.all isIdChar then .error (.invalidId id "only A-Z, 0-9 and '_' are allowed")
  else if !cs.any Char.isUpper then .error (.invalidId id "id must contain at least one letter")
  else .ok ()

def requiredTexts (r : PolicyRule) : List (String × String) :=
  [("title", r.rule.title), ("description", r.rule.description), ("category", r.rule.category),
    ("metadata.source_url", r.metadata.sourceUrl), ("metadata.quote", r.metadata.quote),
    ("metadata.ai_reasoning", r.metadata.reasoning)]

def conditionProblem? (s : Check.Settings) (c : Condition) : Option String :=
  match c.targets.find? fun t => !Files.Location.isContained t with
  | some t => some ("target '" ++ t ++ "' escapes the project root")
  | none =>
    match (Check.build s c).value with
    | .ok _ => none
    | .error f => some f.message

def problem? (s : Check.Settings) (r : PolicyRule) : Option String :=
  match r.requiredTexts.find? fun p => Text.blank p.2 with
  | some p => some (p.1 ++ " must not be blank")
  | none =>
    if r.rule.conditions.isEmpty then some "at least one condition is required"
    else r.rule.conditions.findSome? (conditionProblem? s)

def validate (s : Check.Settings) (r : PolicyRule) : Except SchemaFault Unit := do
  validateId r.rule.id
  r.rule.validate s.maxDepth
  match r.problem? s with
  | some message => throw (.invalid r.rule.id message)
  | none => return ()

def noId : String := "<no id>"

def parse (s : Check.Settings) (candidate : Value) : Except SchemaFault PolicyRule :=
  match ofYaml candidate with
  | .error f =>
    let id := ((candidate.get? "id").bind Value.asText?).getD noId
    .error (.invalid id (f.message .yaml))
  | .ok r =>
    match r.validate s with
    | .error f => .error f
    | .ok () => .ok r

end PolicyRule
end StorePolicy

import StorePolicy.Rule
import StorePolicy.Trace

/-!
# Rule-sets

A rule-set is a list of rules with a version and a date. It is valid if every rule is.
An id that is used again is reported, and is a fault only if repetitions are rejected.
-/
namespace StorePolicy

structure RuleSet where
  version : String
  lastUpdated : String
  rules : List Rule
deriving Inhabited

namespace RuleSet

def defaultVersion : String := "1.0"

def ofRules (rules : List Rule) : RuleSet := ⟨defaultVersion, "", rules⟩

def empty : RuleSet := ofRules []

def size (s : RuleSet) : Nat := s.rules.length

def repeatedIds (seen found : List String) : List String → List String
  | [] => found.reverse
  | id :: rest =>
    if seen.contains id then
      repeatedIds seen (if found.contains id then found else id :: found) rest
    else repeatedIds (id :: seen) found rest

def duplicateIds (s : RuleSet) : List String := repeatedIds [] [] (s.rules.map (·.id))

def rule? (s : RuleSet) (id : String) : Option Rule := s.rules.find? (·.id == id)

def validateRules (maxDepth : Nat) : Nat → List Rule → Except SchemaFault Unit
  | _, [] => .ok ()
  | index, r :: rest =>
    if Text.blank r.id then .error (.emptyId index)
    else
      match r.validate maxDepth with
      | .error f => .error f
      | .ok () => validateRules maxDepth (index + 1) rest

def validate (s : RuleSet) (maxDepth : Nat) (rejectDuplicates : Bool) : Except SchemaFault Unit :=
  match validateRules maxDepth 0 s.rules with
  | .error f => .error f
  | .ok () =>
    match rejectDuplicates, s.duplicateIds with
    | true, id :: _ => .error (.duplicateId id)
    | _, _ => .ok ()

def validateLog (s : RuleSet) (maxDepth : Nat) (rejectDuplicates : Bool) : List Log.Line :=
  match validateRules maxDepth 0 s.rules with
  | .error _ => []
  | .ok () =>
    if rejectDuplicates then []
    else s.duplicateIds.map fun id => ⟨.warn, "Rule id '" ++ id ++ "' appears more than once"⟩

def same (a b : RuleSet) : Bool :=
  a.version == b.version && a.lastUpdated == b.lastUpdated &&
    a.rules.length == b.rules.length && (a.rules.zip b.rules).all fun p => p.1.same p.2

end RuleSet
end StorePolicy

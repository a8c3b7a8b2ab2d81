import StorePolicy.Check.Build
import StorePolicy.RuleSet

/-!
# Audits of rule-sets

An audit lists what is wrong with a rule-set and what is only worth a note. It goes on
after the first fault and builds every condition of the rules that are not nested too deep.
-/
namespace StorePolicy

structure Audit where
  errors : List String
  notes : List String
deriving DecidableEq

namespace Audit

def isClean (a : Audit) : Bool := a.errors.isEmpty

def append (a b : Audit) : Audit := ⟨a.errors ++ b.errors, a.notes ++ b.notes⟩

instance : Append Audit := ⟨append⟩

end Audit

namespace Rule

def buildErrors (s : Check.Settings) (id : String) : List Condition → Traced (List String)
  | [] => pure []
  | c :: rest => do
    let built ← Check.build s c
    let errors ← buildErrors s id rest
    match built with
    | .ok _ => pure errors
    | .error f => pure ((id ++ ": " ++ f.message) :: errors)

/-- What an audit says of one rule; too deep a nesting is reported elsewhere. -/
def audit (s : Check.Settings) (r : Rule) : Traced Audit := do
  let notes := if r.conditions.isEmpty then [r.id ++ " has no conditions and always passes"] else []
  if s.maxDepth < r.depth then pure ⟨[], notes⟩
  else pure ⟨← buildErrors s r.id r.conditions, notes⟩

end Rule

namespace RuleSet

def auditRules (s : Check.Settings) : List Rule → Traced Audit
  | [] => pure ⟨[], []⟩
  | r :: rest => do
    let first ← r.audit s
    pure (first ++ (← auditRules s rest))

def validity (set : RuleSet) (maxDepth : Nat) : Audit :=
  match set.validate maxDepth false with
  | .ok () => ⟨[], []⟩
  | .error f => ⟨[f.message], []⟩

def repetitions (set : RuleSet) (rejectDuplicates : Bool) : Audit :=
  let messages := set.duplicateIds.map fun id => "rule id '" ++ id ++ "' appears more than once"
  if rejectDuplicates then ⟨messages, []⟩ else ⟨[], messages⟩

def audit (set : RuleSet) (s : Check.Settings) (rejectDuplicates : Bool) : Traced Audit := do
  Traced.logAll (set.validateLog s.maxDepth false)
  let rules ← auditRules s set.rules
  pure (set.validity s.maxDepth ++ set.repetitions rejectDuplicates ++ rules)

end RuleSet
end StorePolicy

import StorePolicy.Check.Run
import StorePolicy.Engine
import StorePolicy.Report.Json

/-!
# Checking projects

The rules of an engine that matter to a platform and are enabled are checked against a
project, in order. A rule holds if all its conditions do; the first that does not build or
fails settles it.
-/
namespace StorePolicy

namespace Engine

def conditionLabel (id : String) (index : Nat) (c : Condition) : String :=
  "Rule " ++ id ++ ": condition #" ++ toString (index + 1) ++ " (" ++ c.kind ++ ")"

def holdsFrom (t : FileTree) (s : Check.Settings) (root id : String) :
    Nat → List Condition → Traced Bool
  | _, [] => pure true
  | index, c :: rest => do
    match ← Check.build s c with
    | .error f =>
      Traced.log .error (conditionLabel id index c ++ " is invalid: " ++ f.message)
      pure false
    | .ok check =>
      if ← check.run t root then holdsFrom t s root id (index + 1) rest
      else
        Traced.log .debug (conditionLabel id index c ++ " failed")
        pure false

def evaluateRule (t : FileTree) (e : Engine) (r : Rule) (root : String) : Traced Bool :=
  holdsFrom t e.config.settings root r.id 0 r.conditions

def runRules (t : FileTree) (e : Engine) (root : String) (p : Platform) :
    List Rule → Traced (Nat × List Rule)
  | [] => pure (0, [])
  | r :: rest =>
    if !r.appliesTo p then runRules t e root p rest
    else if !e.config.isEnabled r.id then do
      Traced.log .debug ("Rule " ++ r.id ++ " skipped by configuration")
      runRules t e root p rest
    else do
      let holds ← evaluateRule t e r root
      let (checked, violations) ← runRules t e root p rest
      pure (checked + 1, if holds then violations else r :: violations)

def run (t : FileTree) (e : Engine) (root : String) (p : Platform) : Traced (Nat × List Rule) := do
  let (checked, violations) ← runRules t e root p e.ruleSet.rules
  Traced.log .debug ("Checked " ++ toString checked ++ " rules against " ++ root ++ ": " ++
    toString violations.length ++ " violated")
  pure (checked, violations)

def checkAll (t : FileTree) (e : Engine) (root : String) (p : Platform) : Traced (List Rule) := do
  return (← run t e root p).2

def check (t : FileTree) (e : Engine) (root : String) (p : Platform) : Traced CheckSummary := do
  let (checked, violations) ← run t e root p
  pure (.ofViolations root p checked violations)

def checkMany (t : FileTree) (e : Engine) (p : Platform) : List String → Traced (List CheckSummary)
  | [] => pure []
  | root :: rest => do
    let first ← check t e root p
    pure (first :: (← checkMany t e p rest))

end Engine
end StorePolicy

import StorePolicy.Candidate.Lint
import StorePolicy.Candidate.Strict
import StorePolicy.Engine.Check
import StorePolicy.Report.Text

/-!
# Judging candidates

Before a merge, candidates are read under the strict schema and given advice about. Those that
are rules are run against a project by an engine with the usual configuration, to see which of
them it violates.
-/
namespace StorePolicy.Candidate

open Report

/-- The candidates that are rules, and what is printed about all of them from `index` on. -/
def judge (colored : Bool) (s : Check.Settings) : Nat → List Value → List PolicyRule × List String
  | _, [] => ([], [])
  | index, candidate :: rest =>
    let number := "#" ++ toString (index + 1) ++ ": "
    let advice := (lint candidate).map fun a =>
      Paint.boldYellow.apply colored "warning" ++ ": " ++ number ++ a
    let (rules, lines) := judge colored s (index + 1) rest
    match PolicyRule.parse s candidate with
    | .ok rule => (rule :: rules, advice ++ lines)
    | .error f =>
      (rules, advice ++ (Paint.boldRed.apply colored "error" ++ ": " ++ number ++ f.message) :: lines)

def dryRun (t : FileTree) (candidates : List PolicyRule) (root : String) : Traced (List String) := do
  let rules := RuleSet.ofRules (candidates.map (·.rule))
  let (_, engine) ← (Engine.new .usual).loadRules rules
  return (← engine.checkAll t root .both).map (·.id)

end StorePolicy.Candidate

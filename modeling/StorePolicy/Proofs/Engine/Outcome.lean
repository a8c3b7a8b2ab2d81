import StorePolicy.Engine.Check
import StorePolicy.Proofs.Check.Meaning

/-!
# The outcome of a check

What the engine finds is a filter of its rule-set: of the rules that are selected for the
platform, those that are broken, by a condition that does not build or is not true of the project.
The run through the rules and the run through the conditions of a rule are inductions over
their lists; that a rule is left at its first failing condition makes no difference.
-/
namespace StorePolicy

def Check.builds (s : Check.Settings) (c : Condition) : Bool := (Check.build s c).value.isOk

theorem Check.builds_eq_true_iff {s : Check.Settings} {c : Condition} :
    Check.builds s c = true ↔ ∃ k, (Check.build s c).value = .ok k := by
  unfold Check.builds
  cases (Check.build s c).value <;> simp [Except.isOk, Except.toBool]

/-- A rule is broken by a condition that does not build or is not true. -/
def Rule.broken (s : Check.Settings) (t : FileTree) (root : String) (r : Rule) : Bool :=
  r.conditions.any fun c => !Check.builds s c || !c.truth s t root

def Config.selects (c : Config) (p : Platform) (r : Rule) : Bool :=
  r.appliesTo p && !c.rules.disabled.contains r.id &&
    !c.rules.ignore.any fun start => Config.startsWithText r.id start

namespace Engine

variable {t : FileTree} {e : Engine} {root : String} {p : Platform}

theorem holdsFrom_value (s : Check.Settings) (id : String) (index : Nat) (cs : List Condition) :
    (holdsFrom t s root id index cs).value =
      cs.all fun c => Check.builds s c && c.truth s t root := by
  induction cs generalizing index with
  | nil => rfl
  | cons c rest ih =>
    rw [holdsFrom, Traced.value_bind, List.all_cons, Check.builds]
    cases hbuilt : (Check.build s c).value with
    | error f => rfl
    | ok k =>
      have hk : (k.run t root).value = c.truth s t root := Check.run_buildAt 1 c hbuilt
      simp only [Traced.value_bind, hk]
      cases c.truth s t root with
      | true => exact ih (index + 1)
      | false => rfl

theorem evaluateRule_value (r : Rule) :
    (evaluateRule t e r root).value = !r.broken e.config.settings t root := by
  rw [evaluateRule, holdsFrom_value, Rule.broken, List.not_any_eq_all_not]
  simp only [Bool.not_or, Bool.not_not]

theorem selects_eq (r : Rule) :
    e.config.selects p r = (r.appliesTo p && e.config.isEnabled r.id) := by
  rw [Config.selects, Config.isEnabled, Config.isIgnored, Bool.and_assoc]

theorem runRules_value (rules : List Rule) :
    (runRules t e root p rules).value =
      ((rules.filter (e.config.selects p)).length,
        rules.filter fun r => e.config.selects p r && r.broken e.config.settings t root) := by
  induction rules with
  | nil => rfl
  | cons r rest ih =>
    rw [runRules, List.filter_cons, List.filter_cons, selects_eq]
    cases r.appliesTo p with
    | false => simpa using ih
    | true =>
      cases e.config.isEnabled r.id with
      | false => simpa using ih
      | true =>
        cases hbroken : r.broken e.config.settings t root <;>
          simp [ih, evaluateRule_value, hbroken]

theorem checkAll_value : (checkAll t e root p).value = e.ruleSet.rules.filter fun r =>
    e.config.selects p r && r.broken e.config.settings t root := by
  simp [checkAll, run, runRules_value]

def evaluated (e : Engine) (p : Platform) : List Rule := e.ruleSet.rules.filter (e.config.selects p)

theorem evaluated_eq : e.evaluated p = (e.rulesFor p).filter fun r => e.config.isEnabled r.id := by
  rw [evaluated, rulesFor, List.filter_filter]
  exact List.filter_congr fun r _ => (selects_eq r).trans (Bool.and_comm _ _)

theorem checkAll_eq_filter_evaluated : (checkAll t e root p).value =
    (e.evaluated p).filter (Rule.broken e.config.settings t root) := by
  rw [checkAll_value, evaluated, List.filter_filter]
  simp only [Bool.and_comm]

theorem check_value : (check t e root p).value =
    .ofViolations root p (e.evaluated p).length (checkAll t e root p).value := by
  simp [check, checkAll, run, runRules_value, evaluated]

/-- A check finds exactly the selected rules that are broken, in the order of the rule-set, and the
conditions of all other selected rules build and are true. -/
theorem checkAll_eq_filter_broken (t : FileTree) (e : Engine) (root : String) (p : Platform) :
    (checkAll t e root p).value = e.ruleSet.rules.filter (fun r =>
      e.config.selects p r && r.broken e.config.settings t root) ∧
    ∀ r ∈ e.ruleSet.rules, e.config.selects p r = true → r ∉ (checkAll t e root p).value →
      ∀ c ∈ r.conditions, Check.builds e.config.settings c = true ∧
        c.truth e.config.settings t root = true := by
  refine ⟨checkAll_value, ?_⟩
  intro r hr hselected hnot c hc
  have hholds : r.broken e.config.settings t root = false := by
    rw [checkAll_value, List.mem_filter, hselected, Bool.true_and] at hnot
    exact Bool.eq_false_iff.2 fun hbroken => hnot ⟨hr, hbroken⟩
  have hcondition := List.any_eq_false.1 hholds c hc
  simpa using hcondition

end Engine
end StorePolicy

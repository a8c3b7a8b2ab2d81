import StorePolicy.Proofs.Engine.Outcome

/-!
# Narrower selections

A check for one platform, or with more rules disabled or ignored, evaluates some of the rules that the
wider check evaluates. No verdict depends on the selection or on the other rules, so the outcome is
that of the wider check without the rules left out.
-/
namespace StorePolicy

def Overrides.drops (o : Overrides) (r : Rule) : Bool :=
  (o.disabled.getD []).contains r.id ||
    (o.ignore.getD []).any fun start =>
      (Text.upper start.toList).isPrefixOf (Text.upper r.id.toList)

namespace Config

theorem selects_of_platform (c : Config) (p : Platform) (r : Rule) :
    c.selects p r = (c.selects .both r && r.appliesTo p) := by
  have hboth : r.appliesTo .both = true := r.platform.appliesTo_both
  rw [selects, selects, hboth, Bool.true_and, Bool.and_assoc, Bool.and_comm]

theorem selects_override (c : Config) (o : Overrides) (p : Platform) (r : Rule) :
    (c.override o).selects p r = (c.selects p r && !o.drops r) := by
  have hdisabled : (c.override o).rules.disabled.contains r.id =
      (c.rules.disabled.contains r.id || (o.disabled.getD []).contains r.id) := by
    simp [override]
  have hignored : ((c.override o).rules.ignore.any fun start => startsWithText r.id start) =
      ((c.rules.ignore.any fun start => startsWithText r.id start) ||
        (o.ignore.getD []).any fun start => startsWithText r.id start) :=
    List.any_append
  rw [selects, selects, hdisabled, hignored, Overrides.drops]
  simp only [startsWithText, Bool.not_or]
  ac_rfl

end Config

namespace Engine

def override (e : Engine) (o : Overrides) : Engine := { e with config := e.config.override o }

/-- A check by `e'` for `p'` selects what a check by `e` for `p` selects and keeps. -/
structure Narrows (keeps : Rule → Bool) (e : Engine) (p : Platform) (e' : Engine) (p' : Platform) :
    Prop where
  ruleSet : e'.ruleSet = e.ruleSet
  settings : e'.config.settings = e.config.settings
  selects : ∀ r, e'.config.selects p' r = (e.config.selects p r && keeps r)

variable {t : FileTree} {e e' : Engine} {root : String} {p p' : Platform} {keeps : Rule → Bool}

theorem rulesChecked_check : (check t e root p).value.rulesChecked = (e.evaluated p).length := by
  rw [check_value, CheckSummary.ofViolations]

theorem Narrows.evaluateRule (h : Narrows keeps e p e' p') (r : Rule) :
    evaluateRule t e' r root = evaluateRule t e r root := by
  rw [Engine.evaluateRule, Engine.evaluateRule, h.settings]

theorem Narrows.evaluated (h : Narrows keeps e p e' p') :
    e'.evaluated p' = (e.evaluated p).filter keeps := by
  rw [Engine.evaluated, Engine.evaluated, h.ruleSet, List.filter_filter]
  exact List.filter_congr fun r _ => (h.selects r).trans (Bool.and_comm _ _)

theorem Narrows.checkAll (h : Narrows keeps e p e' p') :
    (checkAll t e' root p').value = (checkAll t e root p).value.filter keeps := by
  rw [checkAll_eq_filter_evaluated, checkAll_eq_filter_evaluated, h.evaluated, h.settings,
    List.filter_filter, List.filter_filter]
  simp only [Bool.and_comm]

theorem narrows_platform (e : Engine) (p : Platform) : Narrows (·.appliesTo p) e .both e p :=
  ⟨rfl, rfl, e.config.selects_of_platform p⟩

theorem narrows_override (e : Engine) (o : Overrides) (p : Platform) :
    Narrows (!o.drops ·) e p (e.override o) p :=
  ⟨rfl, rfl, e.config.selects_override o p⟩

/-- The check for a platform finds what the check for both finds, less the rules for the other, and
ids and beginnings given on the command line take away just the rules that they name. The rules
checked are fewer by the same rules, and no verdict changes. -/
theorem checkAll_narrowed_eq_filter (t : FileTree) (e : Engine) (root : String) (p : Platform) (o : Overrides) :
    ((checkAll t e root p).value = (checkAll t e root .both).value.filter (·.appliesTo p) ∧
      e.evaluated p = (e.evaluated .both).filter (·.appliesTo p)) ∧
    ((checkAll t (e.override o) root p).value = (checkAll t e root p).value.filter (!o.drops ·) ∧
      (e.override o).evaluated p = (e.evaluated p).filter (!o.drops ·)) ∧
    (∀ r, evaluateRule t (e.override o) r root = evaluateRule t e r root) ∧
    ∀ e' q, (check t e' root q).value.rulesChecked = (e'.evaluated q).length := by
  have hplatform := narrows_platform e p
  have hoverride := narrows_override e o p
  exact ⟨⟨hplatform.checkAll, hplatform.evaluated⟩, ⟨hoverride.checkAll, hoverride.evaluated⟩,
    hoverride.evaluateRule, fun _ _ => rulesChecked_check⟩

end Engine
end StorePolicy

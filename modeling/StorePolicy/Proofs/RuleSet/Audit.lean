import StorePolicy.Proofs.Check.Quiet
import StorePolicy.Proofs.Engine.Outcome
import StorePolicy.Proofs.RuleSet.Validity
import StorePolicy.RuleSet.Audit

/-!
# Clean audits

An audit is put together from the validity of a rule-set, from its repetitions and from a pass
through its rules. Each part has no errors under a condition that can be said of the rules, and
together they say that the engine keeps the rule-set and can build all conditions in it.
-/
namespace StorePolicy

def Rule.Buildable (s : Check.Settings) (r : Rule) : Prop :=
  ∀ c ∈ r.conditions, Check.builds s c = true

theorem Rule.buildErrors_eq_nil_iff {s : Check.Settings} {id : String} {cs : List Condition} :
    (buildErrors s id cs).value = [] ↔ ∀ c ∈ cs, Check.builds s c = true := by
  induction cs with
  | nil => simp [buildErrors]
  | cons c rest ih =>
    rw [buildErrors, List.forall_mem_cons, Check.builds]
    cases hbuilt : (Check.build s c).value with
    | ok k => simpa [hbuilt, Except.isOk, Except.toBool] using ih
    | error f => simp [hbuilt, Except.isOk, Except.toBool]

/-- Only rules that are not nested too deep are held to their conditions. -/
theorem Rule.audit_errors_eq_nil_iff {s : Check.Settings} {r : Rule} :
    (r.audit s).value.errors = [] ↔ (r.depth ≤ s.maxDepth → r.Buildable s) := by
  rw [Rule.audit]
  split
  · next h =>
    have hdeep : ¬r.depth ≤ s.maxDepth := Nat.not_le.2 h
    simp [hdeep]
  · next h =>
    have hdepth : r.depth ≤ s.maxDepth := Nat.not_lt.1 h
    simp [hdepth, Rule.Buildable, Rule.buildErrors_eq_nil_iff]

namespace RuleSet

variable {s : Check.Settings} {set : RuleSet}

theorem append_errors (a b : Audit) : (a ++ b).errors = a.errors ++ b.errors := rfl

theorem auditRules_errors_eq_nil_iff {rules : List Rule} :
    (auditRules s rules).value.errors = [] ↔
      ∀ r ∈ rules, r.depth ≤ s.maxDepth → r.Buildable s := by
  induction rules with
  | nil => simp [auditRules]
  | cons r rest ih =>
    rw [auditRules, List.forall_mem_cons, ← ih, ← Rule.audit_errors_eq_nil_iff]
    simp [append_errors]

theorem validity_errors_eq_nil_iff {maxDepth : Nat} :
    (set.validity maxDepth).errors = [] ↔ ∀ r ∈ set.rules, r.validate maxDepth = .ok () := by
  have hvalid : set.validate maxDepth false = .ok () ↔ _ := validate_eq_ok_iff
  rw [validity]
  cases h : set.validate maxDepth false with
  | ok u => simpa [h] using hvalid
  | error f => simpa [h] using hvalid

theorem repetitions_errors_eq_nil_iff {reject : Bool} :
    (set.repetitions reject).errors = [] ↔ (reject = true → (set.rules.map (·.id)).Nodup) := by
  rw [← duplicateIds_eq_nil_iff, repetitions]
  cases reject <;> simp

theorem audit_errors_eq_nil_iff {reject : Bool} :
    (set.audit s reject).value.errors = [] ↔
      set.validate s.maxDepth reject = .ok () ∧ ∀ r ∈ set.rules, r.Buildable s := by
  have hparts : (set.audit s reject).value.errors = (set.validity s.maxDepth).errors ++
      (set.repetitions reject).errors ++ (auditRules s set.rules).value.errors := rfl
  rw [hparts, List.append_eq_nil_iff, List.append_eq_nil_iff, validity_errors_eq_nil_iff,
    repetitions_errors_eq_nil_iff, auditRules_errors_eq_nil_iff, validate_eq_ok_iff]
  constructor
  · intro h
    obtain ⟨hvalid, hbuild⟩ := h
    refine ⟨hvalid, fun r hr => hbuild r hr ?_⟩
    exact ((Rule.validate_eq_ok_iff r s.maxDepth).1 (hvalid.1 r hr)).2
  · intro h
    obtain ⟨hvalid, hbuild⟩ := h
    exact ⟨hvalid, fun r hr _ => hbuild r hr⟩

end RuleSet

namespace Engine

variable {t : FileTree} {e : Engine} {set : RuleSet}

theorem loadRules_config : (e.loadRules set).value.2.config = e.config := by
  rw [loadRules, Traced.value_bind]
  cases (validated e.config set).value <;> rfl

theorem loadRules_keeps_iff :
    (e.loadRules set).value.2.ruleSet = set ↔
      set.validate e.config.engine.maxConditionDepth e.config.engine.rejectDuplicateIds =
        .ok () := by
  have hempty : RuleSet.empty.validate e.config.engine.maxConditionDepth
      e.config.engine.rejectDuplicateIds = .ok () := by
    simp [RuleSet.validate_eq_ok_iff, RuleSet.empty, RuleSet.ofRules]
  cases h : set.validate e.config.engine.maxConditionDepth e.config.engine.rejectDuplicateIds with
  | ok u => simp [loadRules, validated, h, install, ruleSet]
  | error f =>
    have hset : (e.loadRules set).value.2.ruleSet = .empty := by
      simp [loadRules, validated, h, install, ruleSet]
    rw [hset]
    constructor
    · intro heq
      subst heq
      rw [hempty] at h
      cases h
    · intro hok
      cases hok

theorem holdsFrom_quiet {s : Check.Settings} {root id : String} {index : Nat}
    {cs : List Condition} (h : ∀ c ∈ cs, Check.builds s c = true) :
    (holdsFrom t s root id index cs).Quiet := by
  induction cs generalizing index with
  | nil => exact Traced.quiet_pure _
  | cons c rest ih =>
    obtain ⟨hc, hrest⟩ := List.forall_mem_cons.1 h
    refine (Check.buildAt_quiet 1 c).bind ?_
    split
    · next f hbuilt =>
      have herror : (Check.build s c).value = .error f := hbuilt
      simp [Check.builds, herror, Except.isOk, Except.toBool] at hc
    · next k _ =>
      refine (Check.run_quiet k).bind ?_
      split
      · exact ih hrest
      · exact (Traced.quiet_log (by decide) _).bind (Traced.quiet_pure _)

/-- A clean audit is exactly a rule-set that the engine keeps and whose conditions it can build, and
then no rule in it is ever evaluated with an error. -/
theorem audit_isClean_iff (e : Engine) (hdepth : 1 ≤ e.config.engine.maxConditionDepth)
    (set : RuleSet) :
    ((set.audit e.config.settings e.config.engine.rejectDuplicateIds).value.isClean = true ↔
      (e.loadRules set).value.2.ruleSet = set ∧
        ∀ r ∈ set.rules, r.Buildable e.config.settings) ∧
    ((set.audit e.config.settings e.config.engine.rejectDuplicateIds).value.isClean = true →
      ∀ r ∈ set.rules, ∀ t root, (evaluateRule t (e.loadRules set).value.2 r root).Quiet) := by
  have hmax : e.config.settings.maxDepth = e.config.engine.maxConditionDepth :=
    Nat.max_eq_left hdepth
  have hclean : (set.audit e.config.settings e.config.engine.rejectDuplicateIds).value.isClean =
      true ↔ (e.loadRules set).value.2.ruleSet = set ∧
        ∀ r ∈ set.rules, r.Buildable e.config.settings := by
    rw [Audit.isClean, List.isEmpty_iff, RuleSet.audit_errors_eq_nil_iff, loadRules_keeps_iff, hmax]
  refine ⟨hclean, ?_⟩
  intro h r hr t root
  rw [evaluateRule, loadRules_config]
  exact holdsFrom_quiet ((hclean.1 h).2 r hr)

theorem audit_isClean_of_one_rule :
    let e : Engine := .new .usual
    let set : RuleSet := .ofRules [(Rule.new "A" "t").withCondition (.fileExists "a.txt")]
    1 ≤ e.config.engine.maxConditionDepth ∧
    (set.audit e.config.settings e.config.engine.rejectDuplicateIds).value.isClean = true ∧
    ((set.audit e.config.settings e.config.engine.rejectDuplicateIds).value.isClean = true ↔
      (e.loadRules set).value.2.ruleSet = set ∧
        ∀ r ∈ set.rules, r.Buildable e.config.settings) ∧
    ((set.audit e.config.settings e.config.engine.rejectDuplicateIds).value.isClean = true →
      ∀ r ∈ set.rules, ∀ t root, (evaluateRule t (e.loadRules set).value.2 r root).Quiet) := by
  intro e set
  have hdepth : 1 ≤ e.config.engine.maxConditionDepth := by decide
  exact ⟨hdepth, by decide, audit_isClean_iff e hdepth set⟩

end Engine
end StorePolicy

import StorePolicy.Candidate.Strict
import StorePolicy.Proofs.Attempt
import StorePolicy.Proofs.Check.Probes
import StorePolicy.Proofs.Engine.History
import StorePolicy.Proofs.RuleSet.Audit

/-!
# Candidates that the strict schema accepts

The strict schema looks at a candidate in one order and stops at the first problem, but what it
accepts is a list of properties: of the id, of the texts, of the depth, and of the conditions, all of
which stay inside the project and build. They are all that an engine asks of a rule.
-/
namespace StorePolicy

namespace PolicyRule

structure IsStrictId (id : String) : Prop where
  chars : ∀ c ∈ id.toList, isIdChar c = true
  letter : ∃ c ∈ id.toList, c.isUpper = true

/-- What the strict schema asks of a candidate. -/
structure Acceptable (s : Check.Settings) (r : PolicyRule) : Prop where
  strictId : IsStrictId r.rule.id
  valid : r.rule.validate s.maxDepth = .ok ()
  texts : ∀ p ∈ r.requiredTexts, Text.blank p.2 = false
  conditions : r.rule.conditions ≠ []
  contained : ∀ c ∈ r.rule.conditions, ∀ target ∈ c.targets,
    Files.Location.isContained target = true
  builds : r.rule.Buildable s

variable {s : Check.Settings} {r : PolicyRule}

theorem validateId_eq_ok_iff {id : String} : validateId id = .ok () ↔ IsStrictId id := by
  have hstrict : IsStrictId id ↔ id.toList.all isIdChar = true ∧ id.toList.any Char.isUpper = true := by
    rw [List.all_eq_true, List.any_eq_true]
    exact ⟨fun h => ⟨h.chars, h.letter⟩, fun h => ⟨h.1, h.2⟩⟩
  rw [hstrict]
  simp only [validateId]
  cases id.toList with
  | nil => simp
  | cons c rest =>
    cases (c :: rest).all isIdChar with
    | false => simp
    | true => cases (c :: rest).any Char.isUpper <;> simp

theorem conditionProblem?_eq_none_iff {c : Condition} :
    conditionProblem? s c = none ↔
      (∀ target ∈ c.targets, Files.Location.isContained target = true) ∧
        Check.builds s c = true := by
  have hfind : (c.targets.find? fun t => !Files.Location.isContained t) = none ↔
      ∀ target ∈ c.targets, Files.Location.isContained target = true := by
    simp [List.find?_eq_none]
  rw [← hfind, conditionProblem?, Check.builds]
  cases c.targets.find? fun t => !Files.Location.isContained t with
  | some target => simp
  | none => cases (Check.build s c).value <;> simp [Except.isOk, Except.toBool]

theorem problem?_eq_none_iff :
    r.problem? s = none ↔ (∀ p ∈ r.requiredTexts, Text.blank p.2 = false) ∧
      r.rule.conditions ≠ [] ∧ ∀ c ∈ r.rule.conditions, conditionProblem? s c = none := by
  have hfind : (r.requiredTexts.find? fun p => Text.blank p.2) = none ↔
      ∀ p ∈ r.requiredTexts, Text.blank p.2 = false := by
    simp [List.find?_eq_none]
  rw [← hfind, problem?]
  cases r.requiredTexts.find? fun p => Text.blank p.2 with
  | some p => simp
  | none => cases r.rule.conditions <;> simp

theorem validate_eq_ok_iff : r.validate s = .ok () ↔ Acceptable s r := by
  have hparts : Acceptable s r ↔ validateId r.rule.id = .ok () ∧
      r.rule.validate s.maxDepth = .ok () ∧ r.problem? s = none := by
    simp only [validateId_eq_ok_iff, problem?_eq_none_iff, conditionProblem?_eq_none_iff]
    constructor
    · intro h
      exact ⟨h.strictId, h.valid, h.texts, h.conditions,
        fun c hc => ⟨h.contained c hc, h.builds c hc⟩⟩
    · intro h
      obtain ⟨hid, hvalid, htexts, hne, hconditions⟩ := h
      exact ⟨hid, hvalid, htexts, hne, fun c hc => (hconditions c hc).1,
        fun c hc => (hconditions c hc).2⟩
  rw [hparts, validate]
  cases validateId r.rule.id with
  | error f => simp [bind, Except.bind]
  | ok u =>
    cases r.rule.validate s.maxDepth with
    | error f => simp [bind, Except.bind]
    | ok u =>
      cases r.problem? s <;> simp [bind, Except.bind, pure, Except.pure, throw, throwThe,
        MonadExceptOf.throw]

theorem parse_eq_ok_iff {v : Value} : parse s v = .ok r ↔ ofYaml v = .ok r ∧ Acceptable s r := by
  rw [← validate_eq_ok_iff]
  unfold parse
  cases hread : ofYaml v with
  | error f => simp
  | ok p =>
    rw [Except.ok.injEq]
    constructor
    · intro h
      cases hvalid : p.validate s with
      | error f => simp [hvalid] at h
      | ok u =>
        obtain rfl : p = r := by simpa [hvalid] using h
        exact ⟨rfl, hvalid⟩
    · intro h
      obtain ⟨rfl, hvalid⟩ := h
      simp [hvalid]

/-- A candidate that is accepted, as it is or as what a raw candidate is read as. -/
def Accepted (s : Check.Settings) (r : PolicyRule) : Prop :=
  r.validate s = .ok () ∨ ∃ v, parse s v = .ok r

theorem accepted_iff : Accepted s r ↔ Acceptable s r := by
  constructor
  · intro h
    rcases h with h | ⟨v, h⟩
    · exact validate_eq_ok_iff.1 h
    · exact (parse_eq_ok_iff.1 h).2
  · exact fun h => Or.inl (validate_eq_ok_iff.2 h)

theorem Acceptable.asks (h : Acceptable s r) {c : Condition} (hc : c ∈ r.rule.conditions) :
    ∃ k, (Check.build s c).value = .ok k ∧ List.Forall₂ s.Asks c.leaves k.leafChecks := by
  obtain ⟨k, hk⟩ := Check.builds_eq_true_iff.1 (h.builds c hc)
  exact ⟨k, hk, Check.asks_leaves (h.contained c hc) hk⟩

end PolicyRule

namespace Engine

theorem loadRules_count (e : Engine) (set : RuleSet) :
    (e.loadRules set).value.1 = (e.loadRules set).value.2.ruleSet.size := by
  rw [loadRules_value]
  rfl

/-- A rule that the strict schema accepts under the configuration of an engine is kept by it. It is
evaluated to what its conditions say and never with an error, and every leaf of a condition is
asked of its target: none is replaced by a check that fails. -/
theorem accepted_runs (e : Engine) (hdepth : 1 ≤ e.config.engine.maxConditionDepth)
    {r : PolicyRule} (h : r.Accepted e.config.settings) {set : RuleSet}
    (hset : set.rules = [r.rule]) :
    (e.loadRules set).value.1 = 1 ∧ (e.loadRules set).value.2.ruleSet = set ∧
    (∀ t root, (evaluateRule t (e.loadRules set).value.2 r.rule root).Quiet ∧
      (evaluateRule t (e.loadRules set).value.2 r.rule root).value =
        r.rule.conditions.all fun c => c.truth e.config.settings t root) ∧
    ∀ c ∈ r.rule.conditions, ∃ k, (Check.build e.config.settings c).value = .ok k ∧
      List.Forall₂ e.config.settings.Asks c.leaves k.leafChecks ∧ .escaped ∉ k.leafChecks := by
  have hmax : e.config.settings.maxDepth = e.config.engine.maxConditionDepth :=
    Nat.max_eq_left hdepth
  have hacceptable := PolicyRule.accepted_iff.1 h
  have hkept : (e.loadRules set).value.2.ruleSet = set := by
    rw [loadRules_keeps_iff, RuleSet.validate_eq_ok_iff, hset, ← hmax]
    simpa using hacceptable.valid
  refine ⟨?_, hkept, fun t root => ⟨?_, ?_⟩, ?_⟩
  · rw [loadRules_count, hkept, RuleSet.size, hset, List.length_singleton]
  · rw [evaluateRule, loadRules_config]
    exact holdsFrom_quiet hacceptable.builds
  · rw [evaluateRule, loadRules_config, holdsFrom_value]
    rw [Bool.eq_iff_iff, List.all_eq_true, List.all_eq_true]
    refine forall₂_congr fun c hc => ?_
    rw [hacceptable.builds c hc, Bool.true_and]
  · intro c hc
    obtain ⟨k, hk, hasks⟩ := hacceptable.asks hc
    exact ⟨k, hk, hasks, Check.escaped_not_mem_of_asks hasks⟩

theorem accepted_runs_of_raw_candidate :
    let condition : Value := .map [(.str "type", .str "any_of"), (.str "checks", .seq [
      .map [(.str "type", .str "file_exists"), (.str "target", .str "a.txt")],
      .map [(.str "type", .str "regex_in_file"), (.str "target", .str "b.txt"),
        (.str "pattern", .str "x")]])]
    let candidate : Value := .map [(.str "id", .str "NEW_1"), (.str "title", .str "t"),
      (.str "description", .str "d"), (.str "category", .str "c"),
      (.str "conditions", .seq [condition]),
      (.str "metadata", .map [(.str "source_url", .str "u"), (.str "quote", .str "q"),
        (.str "reasoning", .str "r")])]
    let e : Engine := .new .usual
    let rule := (((Rule.new "NEW_1" "t").withDescription "d").withCategory "c").withCondition
      (.composite .anyOf [.fileExists "a.txt", .patternInFile "b.txt" "x"])
    1 ≤ e.config.engine.maxConditionDepth ∧
    PolicyRule.parse e.config.settings candidate = .ok ⟨rule, "u", "q", "r"⟩ ∧
    (e.loadRules (.ofRules [rule])).value.2.ruleSet = .ofRules [rule] ∧
    (∀ t root, (evaluateRule t (e.loadRules (.ofRules [rule])).value.2 rule root).Quiet) ∧
    ∀ c ∈ rule.conditions, ∃ k, (Check.build e.config.settings c).value = .ok k ∧
      List.Forall₂ e.config.settings.Asks c.leaves k.leafChecks ∧ .escaped ∉ k.leafChecks := by
  intro condition candidate e rule
  have hdepth : 1 ≤ e.config.engine.maxConditionDepth := by decide
  have hparse : PolicyRule.parse e.config.settings candidate = .ok ⟨rule, "u", "q", "r"⟩ := by
    rfl
  have hset : (RuleSet.ofRules [rule]).rules = [rule] := rfl
  obtain ⟨-, hkept, hquiet, hasks⟩ :=
    accepted_runs e hdepth (r := ⟨rule, "u", "q", "r"⟩) (.inr ⟨candidate, hparse⟩) hset
  exact ⟨hdepth, hparse, hkept, fun t root => (hquiet t root).1, hasks⟩

end Engine
end StorePolicy

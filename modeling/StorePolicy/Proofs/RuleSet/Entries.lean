import Mathlib.Data.List.Perm.Basic
import StorePolicy.Proofs.RuleSet.Audit

/-!
# The errors of an audit, rule by rule

Apart from the repetitions every error of an audit is about one rule: the fault of the first rule
that is refused for its id or its depth, and the conditions that cannot be built of the rules that
are not nested too deep. So a rule that is refused after another one has no error unless it
is shallow and has a condition that cannot be built.
-/
namespace StorePolicy

namespace Rule

def refused (maxDepth : Nat) (r : Rule) : Bool := Text.blank r.id || decide (maxDepth < r.depth)

def faultAt (maxDepth : Nat) (r : Rule) (index : Nat) : SchemaFault :=
  if Text.blank r.id then .emptyId index else .depthExceeded r.id r.depth maxDepth

def isInvalid (s : Check.Settings) (r : Rule) : Bool :=
  r.refused s.maxDepth || !r.conditions.all (Check.builds s)

theorem isInvalid_iff {s : Check.Settings} {r : Rule} :
    r.isInvalid s = true ↔ Text.blank r.id = true ∨ s.maxDepth < r.depth ∨ ¬r.Buildable s := by
  simp [isInvalid, refused, Buildable, or_assoc]

theorem validate_of_not_refused {maxDepth : Nat} {r : Rule} (h : r.refused maxDepth = false) :
    r.validate maxDepth = .ok () := by
  obtain ⟨hblank, hdepth⟩ := Bool.or_eq_false_iff.1 h
  exact (validate_eq_ok_iff r maxDepth).2 ⟨hblank, Nat.not_lt.1 (of_decide_eq_false hdepth)⟩

theorem validate_of_deep {maxDepth : Nat} {r : Rule} (hblank : Text.blank r.id = false)
    (h : r.refused maxDepth = true) :
    r.validate maxDepth = .error (.depthExceeded r.id r.depth maxDepth) := by
  have hdepth : maxDepth < r.depth := by simpa [refused, hblank] using h
  simp [validate, hblank, hdepth]

end Rule

namespace RuleSet

variable {s : Check.Settings} {maxDepth : Nat}

def firstRefused? (maxDepth : Nat) (rules : List (Rule × Nat)) : Option (Rule × Nat) :=
  rules.find? fun e => e.1.refused maxDepth

theorem validateRules_eq (maxDepth index : Nat) (rules : List Rule) :
    validateRules maxDepth index rules =
      match firstRefused? maxDepth (rules.zipIdx index) with
      | some e => .error (e.1.faultAt maxDepth e.2)
      | none => .ok () := by
  induction rules generalizing index with
  | nil => rfl
  | cons r rest ih =>
    rw [validateRules, List.zipIdx_cons, firstRefused?, List.find?_cons]
    cases hrefused : r.refused maxDepth with
    | false =>
      have hblank : Text.blank r.id = false := (Bool.or_eq_false_iff.1 hrefused).1
      simp only [hblank, Rule.validate_of_not_refused hrefused, Bool.false_eq_true, if_false]
      exact ih (index + 1)
    | true =>
      cases hblank : Text.blank r.id with
      | true => simp [Rule.faultAt, hblank]
      | false => simp [Rule.faultAt, hblank, Rule.validate_of_deep hblank hrefused]

/-- The errors of a rule at its place: its fault if it is the first that is refused, and its conditions
that cannot be built. -/
def ownErrors (set : RuleSet) (s : Check.Settings) (e : Rule × Nat) : List String :=
  (if (firstRefused? s.maxDepth set.rules.zipIdx).map Prod.snd = some e.2 then
    [(e.1.faultAt s.maxDepth e.2).message] else []) ++ (e.1.audit s).value.errors

theorem flatMap_of_first {p : Rule × Nat → Bool} {f : Rule × Nat → String}
    {rules : List (Rule × Nat)} (h : (rules.map Prod.snd).Nodup) :
    (rules.flatMap fun e => if (rules.find? p).map Prod.snd = some e.2 then [f e] else []) =
      (rules.find? p).toList.map f := by
  induction rules with
  | nil => rfl
  | cons e rest ih =>
    obtain ⟨hnew, hrest⟩ := List.nodup_cons.1 h
    rw [List.flatMap_cons, List.find?_cons]
    cases hp : p e with
    | true =>
      have hlater : ∀ q ∈ rest, (if (some e).map Prod.snd = some q.2 then [f q] else []) = [] := by
        intro q hq
        rw [if_neg]
        intro heq
        exact hnew (Option.some_inj.1 heq ▸ List.mem_map_of_mem hq)
      simp only [List.flatMap_eq_nil_iff.2 hlater]
      simp
    | false =>
      have hne : (rest.find? p).map Prod.snd ≠ some e.2 := by
        intro heq
        obtain ⟨q, hq, hsnd⟩ := Option.map_eq_some_iff.1 heq
        exact hnew (hsnd ▸ List.mem_map_of_mem (List.mem_of_find?_eq_some hq))
      simp only [if_neg hne, List.nil_append]
      exact ih hrest

theorem validate_false (set : RuleSet) (maxDepth : Nat) :
    set.validate maxDepth false = validateRules maxDepth 0 set.rules := by
  unfold validate
  cases validateRules maxDepth 0 set.rules with
  | error f => rfl
  | ok u => cases set.duplicateIds <;> rfl

theorem validity_errors (set : RuleSet) (maxDepth : Nat) :
    (set.validity maxDepth).errors = (firstRefused? maxDepth set.rules.zipIdx).toList.map
      fun e => (e.1.faultAt maxDepth e.2).message := by
  rw [validity, validate_false, validateRules_eq]
  cases firstRefused? maxDepth set.rules.zipIdx <;> rfl

theorem auditRules_errors (s : Check.Settings) (rules : List Rule) (index : Nat) :
    (auditRules s rules).value.errors =
      (rules.zipIdx index).flatMap fun e => (e.1.audit s).value.errors := by
  induction rules generalizing index with
  | nil => rfl
  | cons r rest ih => simp [auditRules, append_errors, ih (index + 1)]

theorem audit_errors_perm (set : RuleSet) (s : Check.Settings) (reject : Bool) :
    (set.audit s reject).value.errors.Perm
      ((set.repetitions reject).errors ++ set.rules.zipIdx.flatMap (set.ownErrors s)) := by
  have hparts : (set.audit s reject).value.errors = (set.validity s.maxDepth).errors ++
      (set.repetitions reject).errors ++ (auditRules s set.rules).value.errors := rfl
  have hnodup : (set.rules.zipIdx.map Prod.snd).Nodup := by
    rw [List.zipIdx_map_snd]
    exact List.nodup_range'
  have hfirst := flatMap_of_first (p := fun e => e.1.refused s.maxDepth)
    (f := fun e => (e.1.faultAt s.maxDepth e.2).message) hnodup
  have hown : (set.rules.zipIdx.flatMap (set.ownErrors s)).Perm
      ((set.validity s.maxDepth).errors ++ (auditRules s set.rules).value.errors) := by
    rw [validity_errors, auditRules_errors s set.rules 0, firstRefused?, ← hfirst]
    exact (List.flatMap_append_perm _ _ _).symm
  rw [hparts, List.append_assoc]
  exact (List.perm_append_comm_assoc _ _ _).trans (hown.symm.append_left _)

theorem countP_le_length_flatMap {α β : Type} {p : α → Bool} {f : α → List β} {xs : List α}
    (h : ∀ x ∈ xs, p x = true → f x ≠ []) : xs.countP p ≤ (xs.flatMap f).length := by
  induction xs with
  | nil => simp
  | cons x xs ih =>
    obtain ⟨hx, hxs⟩ := List.forall_mem_cons.1 h
    rw [List.countP_cons, List.flatMap_cons, List.length_append]
    have hrest := ih hxs
    split
    · next hp =>
      have hpos := List.length_pos_iff.2 (hx hp)
      omega
    · omega

theorem ownErrors_eq_nil_iff {set : RuleSet} {e : Rule × Nat} :
    set.ownErrors s e = [] ↔
      (firstRefused? s.maxDepth set.rules.zipIdx).map Prod.snd ≠ some e.2 ∧
        (e.1.depth ≤ s.maxDepth → e.1.Buildable s) := by
  rw [ownErrors, List.append_eq_nil_iff, Rule.audit_errors_eq_nil_iff]
  refine and_congr_left fun _ => ?_
  split <;> simp_all

/-- Every rule that is refused, but for the first, is shallow and has a condition that cannot be
built. -/
def RefusedOnce (set : RuleSet) (s : Check.Settings) : Prop :=
  ∀ e ∈ set.rules.zipIdx, e.1.refused s.maxDepth = true →
    (firstRefused? s.maxDepth set.rules.zipIdx).map Prod.snd = some e.2 ∨
      (e.1.depth ≤ s.maxDepth ∧ ¬e.1.Buildable s)

theorem ownErrors_ne_nil_iff {set : RuleSet} {e : Rule × Nat} :
    (e.1.isInvalid s = true → set.ownErrors s e ≠ []) ↔
      (e.1.refused s.maxDepth = true →
        (firstRefused? s.maxDepth set.rules.zipIdx).map Prod.snd = some e.2 ∨
          (e.1.depth ≤ s.maxDepth ∧ ¬e.1.Buildable s)) := by
  have hown : set.ownErrors s e ≠ [] ↔
      (firstRefused? s.maxDepth set.rules.zipIdx).map Prod.snd = some e.2 ∨
        (e.1.depth ≤ s.maxDepth ∧ ¬e.1.Buildable s) := by
    rw [ne_eq, ownErrors_eq_nil_iff, not_and_or, not_not, Classical.not_imp]
  rw [hown]
  constructor
  · intro h hrefused
    exact h (by rw [Rule.isInvalid, hrefused, Bool.true_or])
  · intro h hinvalid
    cases hrefused : e.1.refused s.maxDepth with
    | true => exact h hrefused
    | false =>
      obtain ⟨hblank, hdepth⟩ := Bool.or_eq_false_iff.1 hrefused
      have hshallow : ¬s.maxDepth < e.1.depth := of_decide_eq_false hdepth
      rcases Rule.isInvalid_iff.1 hinvalid with h | h | h
      · rw [hblank] at h
        cases h
      · exact absurd h hshallow
      · exact Or.inr ⟨Nat.not_lt.1 hshallow, h⟩

theorem exists_id_in_message {r : Rule} (hblank : Text.blank r.id = false) (maxDepth index : Nat) :
    ∃ before after, (r.faultAt maxDepth index).message = before ++ r.id ++ after := by
  refine ⟨"Rule '", "': condition nesting depth " ++ toString r.depth ++
    " exceeds the maximum of " ++ toString maxDepth, ?_⟩
  rw [Rule.faultAt, hblank, if_neg Bool.false_ne_true]
  unfold SchemaFault.message
  simp only [String.append_assoc]

theorem exists_error_of_deep {set : RuleSet} (h : set.RefusedOnce s) (reject : Bool) {r : Rule}
    (hr : r ∈ set.rules) (hdepth : s.maxDepth < r.depth) (hblank : Text.blank r.id = false) :
    ∃ message ∈ (set.audit s reject).value.errors,
      ∃ before after, message = before ++ r.id ++ after := by
  obtain ⟨i, hi, rfl⟩ := List.mem_iff_getElem.1 hr
  have hmem : (set.rules[i], i) ∈ set.rules.zipIdx := by
    rw [List.mem_zipIdx_iff_getElem?, List.getElem?_eq_getElem hi]
  have hrefused : set.rules[i].refused s.maxDepth = true := by simp [Rule.refused, hdepth]
  have hfirst : (firstRefused? s.maxDepth set.rules.zipIdx).map Prod.snd = some i := by
    rcases h _ hmem hrefused with hfirst | hshallow
    · exact hfirst
    · exact absurd hdepth (Nat.not_lt.2 hshallow.1)
  refine ⟨(set.rules[i].faultAt s.maxDepth i).message, ?_, exists_id_in_message hblank _ _⟩
  refine (set.audit_errors_perm s reject).symm.subset (List.mem_append_right _ ?_)
  refine List.mem_flatMap.2 ⟨_, hmem, ?_⟩
  rw [ownErrors, if_pos hfirst]
  exact List.mem_append_left _ List.mem_cons_self

/-- The errors of an audit are the repetitions and the rules' own, and every rule that is invalid by
itself has one of its own exactly if the rules that are refused after the first are shallow and have
a condition that cannot be built. Then there are as many errors as such rules, and an error
names every rule that is nested too deep. -/
theorem audit_names_iff (set : RuleSet) (s : Check.Settings) (reject : Bool) :
    (set.audit s reject).value.errors.Perm
      ((set.repetitions reject).errors ++ set.rules.zipIdx.flatMap (set.ownErrors s)) ∧
    ((∀ e ∈ set.rules.zipIdx, e.1.isInvalid s = true → set.ownErrors s e ≠ []) ↔
      set.RefusedOnce s) ∧
    (set.RefusedOnce s →
      set.rules.countP (Rule.isInvalid s) ≤ (set.audit s reject).value.errors.length ∧
      ∀ r ∈ set.rules, s.maxDepth < r.depth → Text.blank r.id = false →
        ∃ message ∈ (set.audit s reject).value.errors,
          ∃ before after, message = before ++ r.id ++ after) := by
  have hperm := set.audit_errors_perm s reject
  have hown : (∀ e ∈ set.rules.zipIdx, e.1.isInvalid s = true → set.ownErrors s e ≠ []) ↔
      set.RefusedOnce s :=
    forall₂_congr fun e _ => ownErrors_ne_nil_iff
  refine ⟨hperm, hown, fun h => ⟨?_, fun r hr => exists_error_of_deep h reject hr⟩⟩
  calc set.rules.countP (Rule.isInvalid s)
      = set.rules.zipIdx.countP (fun e => e.1.isInvalid s) := by
        conv_lhs => rw [← List.zipIdx_map_fst 0 set.rules, List.countP_map]
        rfl
    _ ≤ (set.rules.zipIdx.flatMap (set.ownErrors s)).length :=
        countP_le_length_flatMap (hown.2 h)
    _ ≤ (set.audit s reject).value.errors.length := by
        rw [hperm.length_eq, List.length_append]
        exact Nat.le_add_left _ _

theorem audit_names_of_two_rules :
    let s := Check.Settings.usual.withMaxDepth 1
    let deep := (Rule.new "A" "t").withCondition (.composite .allOf [.fileExists "a"])
    let blank := (Rule.new " " "t").withCondition (.xmlPathExists "a.xml" "")
    let set := ofRules [deep, blank]
    set.RefusedOnce s ∧
    set.rules.countP (Rule.isInvalid s) ≤ (set.audit s false).value.errors.length ∧
    ∀ r ∈ set.rules, s.maxDepth < r.depth → Text.blank r.id = false →
      ∃ message ∈ (set.audit s false).value.errors,
        ∃ before after, message = before ++ r.id ++ after := by
  intro s deep blank set
  have h : set.RefusedOnce s := by
    have hfirst : (firstRefused? s.maxDepth set.rules.zipIdx).map Prod.snd = some 0 := by
      decide
    have hbuild : Check.builds s (.xmlPathExists "a.xml" "") = false := by decide
    rintro e he -
    have hplace : e = (deep, 0) ∨ e = (blank, 1) := by simpa [set, ofRules] using he
    rcases hplace with rfl | rfl
    · exact Or.inl hfirst
    · refine Or.inr ⟨by decide, fun hall => ?_⟩
      rw [hall _ List.mem_cons_self] at hbuild
      cases hbuild
  exact ⟨h, (audit_names_iff set s false).2.2 h⟩

/-- Of two rules that are nested too deep only the first has an error. -/
theorem audit_misses_second_deep_rule :
    let s := Check.Settings.usual.withMaxDepth 1
    let deep (id : String) := (Rule.new id "t").withCondition (.composite .allOf [.fileExists "a"])
    let set := ofRules [deep "A", deep "B"]
    (∀ r ∈ set.rules, s.maxDepth < r.depth) ∧
    (set.audit s true).value.errors =
      ["Rule 'A': condition nesting depth 2 exceeds the maximum of 1"] ∧
    (set.audit s true).value.errors.length < set.rules.countP (Rule.isInvalid s) := by
  decide

end RuleSet
end StorePolicy

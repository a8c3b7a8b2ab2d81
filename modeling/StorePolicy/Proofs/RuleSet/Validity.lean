import Mathlib.Data.List.Nodup
import StorePolicy.RuleSet

/-!
# Valid rule-sets

The checks of a rule-set stop at their first fault, but what they accept does not depend on the
order of the rules: every rule is valid on its own, and where repetitions are rejected
no two rules have the same id.
-/
namespace StorePolicy.RuleSet

theorem repeatedIds_eq_nil_iff {seen found ids : List String} :
    repeatedIds seen found ids = [] ↔ found = [] ∧ (∀ id ∈ ids, id ∉ seen) ∧ ids.Nodup := by
  induction ids generalizing seen found with
  | nil => simp [repeatedIds]
  | cons id rest ih =>
    unfold repeatedIds
    cases hseen : seen.contains id with
    | true =>
      have hmem : id ∈ seen := List.contains_iff_mem.1 hseen
      have hnote : (if found.contains id then found else id :: found) ≠ [] := by
        split
        · next h => exact List.ne_nil_of_mem (List.contains_iff_mem.1 h)
        · exact List.cons_ne_nil _ _
      rw [if_pos rfl, ih]
      constructor
      · intro h
        obtain ⟨hfound, -⟩ := h
        exact absurd hfound hnote
      · intro h
        obtain ⟨-, hnew, -⟩ := h
        exact absurd hmem (hnew id List.mem_cons_self)
    | false =>
      have hmem : id ∉ seen := by
        rw [← List.contains_iff_mem, hseen]
        exact Bool.false_ne_true
      rw [if_neg Bool.false_ne_true, ih, List.nodup_cons]
      constructor
      · intro h
        obtain ⟨hfound, hnew, hrest⟩ := h
        refine ⟨hfound, ?_, ?_, hrest⟩
        · intro k hk
          rcases List.mem_cons.1 hk with rfl | hk
          · exact hmem
          · exact fun hks => hnew k hk (List.mem_cons_of_mem _ hks)
        · exact fun hid => hnew id hid List.mem_cons_self
      · intro h
        obtain ⟨hfound, hnew, hid, hrest⟩ := h
        refine ⟨hfound, ?_, hrest⟩
        intro k hk hks
        rcases List.mem_cons.1 hks with rfl | hks
        · exact hid hk
        · exact hnew k (List.mem_cons_of_mem _ hk) hks

theorem duplicateIds_eq_nil_iff (s : RuleSet) :
    s.duplicateIds = [] ↔ (s.rules.map (·.id)).Nodup := by
  simp [duplicateIds, repeatedIds_eq_nil_iff]

theorem validateRules_eq_ok_iff {maxDepth index : Nat} {rules : List Rule} :
    validateRules maxDepth index rules = .ok () ↔ ∀ r ∈ rules, r.validate maxDepth = .ok () := by
  induction rules generalizing index with
  | nil => simp [validateRules]
  | cons r rest ih =>
    rw [validateRules, List.forall_mem_cons]
    split
    · next hblank => simp [Rule.validate_eq_ok_iff, hblank]
    · cases hr : r.validate maxDepth with
      | error f => simp
      | ok u => simpa using ih

theorem validate_eq_ok_iff {s : RuleSet} {maxDepth : Nat} {reject : Bool} :
    s.validate maxDepth reject = .ok () ↔
      (∀ r ∈ s.rules, r.validate maxDepth = .ok ()) ∧
        (reject = true → (s.rules.map (·.id)).Nodup) := by
  have hrules : validateRules maxDepth 0 s.rules = .ok () ↔ _ := validateRules_eq_ok_iff
  rw [← hrules, ← duplicateIds_eq_nil_iff]
  unfold validate
  cases validateRules maxDepth 0 s.rules with
  | error f => simp
  | ok u =>
    cases reject with
    | false => simp
    | true =>
      cases s.duplicateIds with
      | nil => simp
      | cons id rest => simp

end StorePolicy.RuleSet

import Mathlib.Data.Set.Card
import StorePolicy.Proofs.Xml.Compile
import StorePolicy.Xml.Query

/-!
# What predicates select

A predicate asks something of an element and of the candidates among which it is counted.
Candidates in ascending order are kept exactly as the predicates ask, one after the other,
because the place of an element in such a list is the number of the smaller ones.
-/
namespace StorePolicy.Xml

section Ascending

variable {cs : List Nat} {i k : Nat}

theorem getElem?_eq_some_iff_countP (h : cs.Pairwise (· < ·)) :
    cs[k]? = some i ↔ i ∈ cs ∧ cs.countP (· < i) = k := by
  induction cs generalizing k with
  | nil => simp
  | cons c cs ih =>
    obtain ⟨hc, hcs⟩ := List.pairwise_cons.1 h
    have hnone : cs.countP (· < c) = 0 := by
      simp only [List.countP_eq_zero, decide_eq_true_eq]
      intro j hj
      have := hc j hj
      omega
    rw [List.countP_cons]
    cases k with
    | zero =>
      rw [List.getElem?_cons_zero, Option.some_inj]
      constructor
      · rintro rfl
        simp [hnone]
      · intro hi
        rcases List.mem_cons.1 hi.1 with rfl | hmem
        · rfl
        · simp [hc i hmem] at hi
    | succ k =>
      rw [List.getElem?_cons_succ, ih hcs]
      constructor
      · intro hi
        simp [hi.1, hi.2, hc i hi.1]
      · intro hi
        rcases List.mem_cons.1 hi.1 with rfl | hmem
        · simp [hnone] at hi
        · simpa [hmem, hc i hmem] using hi

theorem ncard_lt_eq_countP (h : cs.Pairwise (· < ·)) (i : Nat) :
    {j ∈ {j | j ∈ cs} | j < i}.ncard = cs.countP (· < i) := by
  have hset : {j ∈ {j | j ∈ cs} | j < i} = ((cs.filter (· < i)).toFinset : Set Nat) := by
    ext j
    simp
  rw [hset, Set.ncard_coe_finset, List.countP_eq_length_filter]
  exact List.toFinset_card_of_nodup ((h.imp fun hab => Nat.ne_of_lt hab).filter _)

theorem getLast?_eq_some_iff_le (h : cs.Pairwise (· < ·)) :
    cs.getLast? = some i ↔ i ∈ cs ∧ ∀ j ∈ cs, j ≤ i := by
  rcases List.eq_nil_or_concat cs with rfl | ⟨before, last, rfl⟩
  · simp
  · rw [List.concat_eq_append] at h ⊢
    have hlast := fun j hj => (List.pairwise_append.1 h).2.2 j hj last (List.mem_singleton_self last)
    simp only [List.getLast?_concat, Option.some_inj, List.mem_append, List.mem_singleton]
    constructor
    · rintro rfl
      exact ⟨.inr rfl, fun j hj => hj.elim (fun hj => (hlast j hj).le) fun hj => hj.le⟩
    · intro hi
      rcases hi.1 with hmem | rfl
      · have := hlast i hmem
        have := hi.2 last (.inr rfl)
        omega
      · rfl

end Ascending

namespace Predicate

variable {d : Document} {p : Predicate} {ps : List Predicate} {cs : List Nat} {i : Nat}

def Passes (d : Document) (candidates : Set Nat) (i : Nat) : Predicate → Prop
  | .hasAttribute name => ∃ value, (d.node? i).bind (·.attribute? name) = some value
  | .attributeIs name value => (d.node? i).bind (·.attribute? name) = some value
  | .hasChild name => ∃ c ∈ d.children i, d.nameAt c = name
  | .childTextIs name value => ∃ c ∈ d.children i, d.nameAt c = name ∧ d.textAt c = value
  | .textIs value => d.textAt i = value
  | .position n => {j ∈ candidates | j < i}.ncard + 1 = n
  | .last => ∀ j ∈ candidates, j ≤ i

/-- The candidates that pass, each predicate counting among those that have passed the ones before. -/
def passing (d : Document) : List Predicate → Set Nat → Set Nat
  | [], candidates => candidates
  | p :: ps, candidates => passing d ps {i ∈ candidates | p.Passes d candidates i}

theorem passing_subset (ps : List Predicate) (candidates : Set Nat) :
    passing d ps candidates ⊆ candidates := by
  induction ps generalizing candidates with
  | nil => exact subset_rfl
  | cons p ps ih => exact (ih _).trans (Set.sep_subset _ _)

theorem keep_sublist (p : Predicate) (cs : List Nat) : (p.keep d cs).Sublist cs := by
  cases p with
  | position n =>
    rw [keep]
    cases hget : cs[n - 1]? with
    | none => exact List.nil_sublist cs
    | some i => exact List.singleton_sublist.2 (List.mem_of_getElem? hget)
  | last =>
    rw [keep]
    cases hlast : cs.getLast? with
    | none => exact List.nil_sublist cs
    | some i => exact List.singleton_sublist.2 (List.mem_of_getLast? hlast)
  | _ => exact List.filter_sublist

theorem mem_keep_iff (hcs : cs.Pairwise (· < ·)) (hp : p.Countable) :
    i ∈ p.keep d cs ↔ i ∈ cs ∧ p.Passes d {j | j ∈ cs} i := by
  cases p with
  | hasAttribute name => simp [keep, holds, Passes, Option.isSome_iff_exists]
  | attributeIs name value => simp [keep, holds, Passes]
  | hasChild name => simp [keep, holds, Passes]
  | childTextIs name value => simp [keep, holds, Passes]
  | textIs value => simp [keep, holds, Passes]
  | position n =>
    have hn : 1 ≤ n := hp
    rw [keep, Option.mem_toList, getElem?_eq_some_iff_countP hcs, Passes,
      ncard_lt_eq_countP hcs]
    exact and_congr_right fun _ => by omega
  | last =>
    rw [keep, Option.mem_toList, getLast?_eq_some_iff_le hcs]
    rfl

theorem mem_keepAll_iff (hcs : cs.Pairwise (· < ·)) (hps : ∀ p ∈ ps, p.Countable) :
    i ∈ keepAll d ps cs ↔ i ∈ passing d ps {j | j ∈ cs} := by
  induction ps generalizing cs with
  | nil => rfl
  | cons p ps ih =>
    obtain ⟨hp, hps⟩ := List.forall_mem_cons.1 hps
    have hkept : {j | j ∈ p.keep d cs} = {j ∈ {j | j ∈ cs} | p.Passes d {j | j ∈ cs} j} :=
      Set.ext fun j => mem_keep_iff hcs hp
    rw [passing, ← hkept]
    exact ih (hcs.sublist (keep_sublist p cs)) hps

end Predicate
end StorePolicy.Xml

import Mathlib.Data.List.Count
import Mathlib.Data.List.Induction
import StorePolicy.Proofs.RuleSet.Entries

/-!
# Repeated ids

One pass through the rules keeps the ids it has seen and those it has listed. An id is listed where
it comes for the second time. So after every rule the list holds the ids that two of the rules
so far have, each once, in the order of their second places, and its head is the id that
repeats first, which is the one that a rejected rule-set is refused for.
-/
namespace StorePolicy.RuleSet

def SecondAt (ids : List String) (id : String) (n : Nat) : Prop :=
  ids[n]? = some id ∧ (ids.take n).count id = 1

def RepeatsFirst (ids : List String) (id : String) : Prop :=
  ∃ n, SecondAt ids id n ∧ (ids.take n).Nodup

def RepeatsBefore (ids : List String) (id id' : String) : Prop :=
  ∃ m n, SecondAt ids id m ∧ SecondAt ids id' n ∧ m < n

structure ListsRepeats (ids found : List String) : Prop where
  nodup : found.Nodup
  mem_iff : ∀ id, id ∈ found ↔ 2 ≤ ids.count id
  ordered : found.Pairwise (RepeatsBefore ids)

variable {ids found : List String} {id id' : String} {m n : Nat}

theorem SecondAt.lt_length (h : SecondAt ids id n) : n < ids.length :=
  (List.getElem?_eq_some_iff.1 h.1).1

theorem SecondAt.append (h : SecondAt ids id n) (more : List String) :
    SecondAt (ids ++ more) id n := by
  have hn := h.lt_length
  refine ⟨?_, ?_⟩
  · rw [List.getElem?_append_left hn]
    exact h.1
  · rw [List.take_append_of_le_length (Nat.le_of_lt hn)]
    exact h.2

theorem count_take_mono (h : m ≤ n) (id : String) :
    (ids.take m).count id ≤ (ids.take n).count id :=
  (List.take_prefix_take_left h).sublist.count_le id

theorem secondAt_length (h : ids.count id = 1) : SecondAt (ids ++ [id]) id ids.length := by
  refine ⟨by simp, ?_⟩
  rw [List.take_left]
  exact h

theorem SecondAt.two_le_count (h : SecondAt ids id n) (hnm : n < m) : 2 ≤ (ids.take m).count id := by
  have htwo : (ids.take (n + 1)).count id = 2 := by
    rw [List.take_add_one, h.1, List.count_append, h.2]
    simp
  have hcount : (ids.take (n + 1)).count id ≤ (ids.take m).count id := count_take_mono hnm id
  omega

theorem SecondAt.unique (h : SecondAt ids id n) (h' : SecondAt ids id m) : n = m := by
  by_contra hne
  rcases Nat.lt_or_gt_of_ne hne with hlt | hlt
  · have htwo := h.two_le_count hlt
    have hone := h'.2
    omega
  · have htwo := h'.two_le_count hlt
    have hone := h.2
    omega

theorem exists_secondAt (h : 2 ≤ ids.count id) : ∃ n, SecondAt ids id n := by
  -- from the end, where the id comes for the second time if it did not before
  induction ids using List.reverseRecOn with
  | nil => simp at h
  | append_singleton ids last ih =>
    by_cases hbefore : 2 ≤ ids.count id
    · obtain ⟨n, hn⟩ := ih hbefore
      exact ⟨n, hn.append [last]⟩
    · rw [List.count_append, List.count_singleton] at h
      split at h
      · next hlast =>
        obtain rfl : last = id := by simpa using hlast
        exact ⟨ids.length, secondAt_length (by omega)⟩
      · omega

theorem RepeatsBefore.append (h : RepeatsBefore ids id id') (more : List String) :
    RepeatsBefore (ids ++ more) id id' := by
  obtain ⟨m, n, hm, hn, hmn⟩ := h
  exact ⟨m, n, hm.append more, hn.append more, hmn⟩

theorem RepeatsFirst.unique (h : RepeatsFirst ids id) (h' : RepeatsFirst ids id') : id = id' := by
  obtain ⟨n, hn, hnodup⟩ := h
  obtain ⟨m, hm, hnodup'⟩ := h'
  rcases Nat.lt_trichotomy n m with hlt | rfl | hlt
  · have htwo := hn.two_le_count hlt
    have hone := List.nodup_iff_count_le_one.1 hnodup' id
    omega
  · exact Option.some_inj.1 (hn.1.symm.trans hm.1)
  · have htwo := hm.two_le_count hlt
    have hone := List.nodup_iff_count_le_one.1 hnodup id'
    omega

namespace ListsRepeats

theorem nil : ListsRepeats [] [] := ⟨List.nodup_nil, by simp, .nil⟩

theorem second (h : ListsRepeats ids found) (hid : ids.count id = 1) :
    ListsRepeats (ids ++ [id]) (found ++ [id]) := by
  have hnew : id ∉ found := by
    rw [h.mem_iff]
    omega
  refine ⟨?_, fun k => ?_, ?_⟩
  · rw [← List.concat_eq_append]
    exact h.nodup.concat hnew
  · rw [List.mem_append, List.mem_singleton, h.mem_iff, List.count_append]
    by_cases hk : k = id
    · subst hk
      simp [hid]
    · have hother : ¬id = k := fun heq => hk heq.symm
      simp [hk, hother]
  · refine List.pairwise_append.2
      ⟨h.ordered.imp fun hab => hab.append [id], List.pairwise_singleton _ _, fun k hk j hj => ?_⟩
    obtain ⟨n, hn⟩ := exists_secondAt ((h.mem_iff k).1 hk)
    rw [List.mem_singleton.1 hj]
    exact ⟨n, ids.length, hn.append [id], secondAt_length hid, hn.lt_length⟩

theorem other (h : ListsRepeats ids found) (hid : ids.count id ≠ 1) :
    ListsRepeats (ids ++ [id]) found := by
  refine ⟨h.nodup, fun k => ?_, h.ordered.imp fun hab => hab.append [id]⟩
  rw [h.mem_iff, List.count_append]
  by_cases hk : k = id
  · subst hk
    simp only [List.count_singleton_self]
    omega
  · have hother : ¬id = k := fun heq => hk heq.symm
    simp [hother]

theorem eq_nil_iff (h : ListsRepeats ids found) : found = [] ↔ ids.Nodup := by
  rw [List.eq_nil_iff_forall_not_mem, List.nodup_iff_count_le_one]
  refine forall_congr' fun id => ?_
  rw [h.mem_iff]
  omega

theorem repeatsFirst_of_cons {rest : List String} (h : ListsRepeats ids (id :: rest)) :
    RepeatsFirst ids id := by
  obtain ⟨n, hn⟩ := exists_secondAt ((h.mem_iff id).1 List.mem_cons_self)
  refine ⟨n, hn, List.nodup_iff_count_le_one.2 fun k => ?_⟩
  by_contra hk
  have htwo : 2 ≤ ids.count k := by
    have hcount := (List.take_sublist n ids).count_le k
    omega
  -- whatever repeats is listed, and nothing listed comes for the second time before the head
  rcases List.mem_cons.1 ((h.mem_iff k).2 htwo) with rfl | hmem
  · have hone := hn.2
    omega
  · obtain ⟨m, l, hm, hl, hml⟩ := (List.pairwise_cons.1 h.ordered).1 k hmem
    obtain rfl := hm.unique hn
    have hcount : (ids.take m).count k ≤ (ids.take l).count k := count_take_mono (Nat.le_of_lt hml) k
    have hone := hl.2
    omega

theorem head?_eq_some_iff (h : ListsRepeats ids found) :
    found.head? = some id ↔ RepeatsFirst ids id := by
  constructor
  · intro hhead
    obtain ⟨rest, rfl⟩ := List.head?_eq_some_iff.1 hhead
    exact h.repeatsFirst_of_cons
  · intro hfirst
    cases found with
    | nil =>
      obtain ⟨n, hn, -⟩ := hfirst
      have hone := List.nodup_iff_count_le_one.1 (h.eq_nil_iff.1 rfl) id
      have htwo := hn.two_le_count hn.lt_length
      rw [List.take_length] at htwo
      omega
    | cons k rest => rw [List.head?_cons, h.repeatsFirst_of_cons.unique hfirst]

end ListsRepeats

theorem listsRepeats_repeatedIds {before seen : List String} (hseen : ∀ k, k ∈ seen ↔ k ∈ before)
    (h : ListsRepeats before found.reverse) (ids : List String) :
    ListsRepeats (before ++ ids) (repeatedIds seen found ids) := by
  induction ids generalizing before seen found with
  | nil => simpa [repeatedIds] using h
  | cons id rest ih =>
    have hsplit : before ++ id :: rest = (before ++ [id]) ++ rest := by simp
    have hlisted : id ∈ found ↔ 2 ≤ before.count id := by
      rw [← h.mem_iff, List.mem_reverse]
    rw [repeatedIds, hsplit]
    by_cases hid : id ∈ seen
    · have hpos : 0 < before.count id := List.count_pos_iff.2 ((hseen id).1 hid)
      have hseen' : ∀ k, k ∈ seen ↔ k ∈ before ++ [id] := by
        intro k
        rw [List.mem_append, List.mem_singleton, ← hseen k]
        constructor
        · exact .inl
        · rintro (hk | rfl)
          · exact hk
          · exact hid
      rw [if_pos (List.contains_iff_mem.2 hid)]
      by_cases hfound : id ∈ found
      · rw [if_pos (List.contains_iff_mem.2 hfound)]
        refine ih hseen' (h.other ?_)
        have htwo := hlisted.1 hfound
        omega
      · rw [if_neg (by simpa using hfound)]
        refine ih hseen' ?_
        rw [List.reverse_cons]
        refine h.second ?_
        have hone : ¬2 ≤ before.count id := fun htwo => hfound (hlisted.2 htwo)
        omega
    · rw [if_neg (by simpa using hid)]
      refine ih (fun k => ?_) (h.other ?_)
      · rw [List.mem_cons, List.mem_append, List.mem_singleton, hseen k, or_comm]
      · have hnone : before.count id = 0 :=
          List.count_eq_zero.2 fun hmem => hid ((hseen id).2 hmem)
        omega

theorem listsRepeats_duplicateIds (s : RuleSet) :
    ListsRepeats (s.rules.map (·.id)) s.duplicateIds := by
  have hstart : ListsRepeats [] [].reverse := .nil
  exact listsRepeats_repeatedIds (fun _ => Iff.rfl) hstart _

theorem validate_eq_duplicateId_iff {s : RuleSet} {maxDepth : Nat} {id : String} :
    s.validate maxDepth true = .error (.duplicateId id) ↔
      (∀ r ∈ s.rules, r.validate maxDepth = .ok ()) ∧ s.duplicateIds.head? = some id := by
  have hrules : validateRules maxDepth 0 s.rules = .ok () ↔ _ := validateRules_eq_ok_iff
  rw [← hrules]
  unfold validate
  rw [validateRules_eq]
  cases firstRefused? maxDepth s.rules.zipIdx with
  | some e =>
    -- a rule by itself is never refused for a repetition
    have hfault : e.1.faultAt maxDepth e.2 ≠ .duplicateId id := by
      rw [Rule.faultAt]
      split <;> simp
    simpa using hfault
  | none => cases s.duplicateIds <;> simp

/-- The repeated ids are those that two rules have, each once, in the order of their second places. A
rule-set in which every rule is valid is refused for a repetition exactly if its ids are not all
different, and then for the id that repeats first. -/
theorem duplicateIds_lists_repetitions (s : RuleSet) :
    s.duplicateIds.Nodup ∧
    (∀ id, id ∈ s.duplicateIds ↔ 2 ≤ s.rules.countP (·.id == id)) ∧
    s.duplicateIds.Pairwise (RepeatsBefore (s.rules.map (·.id))) ∧
    ∀ maxDepth,
      (s.validate maxDepth true = .ok () ↔
        (∀ r ∈ s.rules, r.validate maxDepth = .ok ()) ∧ (s.rules.map (·.id)).Nodup) ∧
      ((∃ id, s.validate maxDepth true = .error (.duplicateId id)) ↔
        (∀ r ∈ s.rules, r.validate maxDepth = .ok ()) ∧ ¬(s.rules.map (·.id)).Nodup) ∧
      ∀ id, s.validate maxDepth true = .error (.duplicateId id) ↔
        (∀ r ∈ s.rules, r.validate maxDepth = .ok ()) ∧
          RepeatsFirst (s.rules.map (·.id)) id := by
  have hlists := listsRepeats_duplicateIds s
  refine ⟨hlists.nodup, fun id => ?_, hlists.ordered, fun maxDepth => ⟨?_, ?_, fun id => ?_⟩⟩
  · rw [hlists.mem_iff, List.count, List.countP_map]
    rfl
  · have hvalid : s.validate maxDepth true = .ok () ↔ _ := validate_eq_ok_iff
    simpa using hvalid
  · simp only [validate_eq_duplicateId_iff, exists_and_left]
    refine and_congr_right fun _ => ?_
    rw [← hlists.eq_nil_iff, ← ne_eq, List.ne_nil_iff_exists_cons]
    simp only [List.head?_eq_some_iff]
  · rw [validate_eq_duplicateId_iff, hlists.head?_eq_some_iff]

example : (ofRules (["A", "B", "C", "B", "A", "B", "A"].map (Rule.new · "t"))).duplicateIds =
    ["B", "A"] := by
  decide

end StorePolicy.RuleSet

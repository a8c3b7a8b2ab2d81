import StorePolicy.Proofs.Path.Located

/-!
# Matches in the order of the document

Without a descent a path comes to places side by side, in the order of the document. A descent comes
to a value before it comes to the values below it, and what it takes from the value may stand
behind those; a second descent comes to the same places again. If from the descent on only the first
position is taken, nothing stands before what is taken, and so the order is kept.
-/
namespace StorePolicy.Path

open Json

/-- Takes only what stands first. The empty key comes before all others. -/
def Segment.takesFirst : Segment → Bool
  | .key name => name == ""
  | .index i => i == 0
  | .all => false
  | .descend _ => false

/-- There is no descent, or from the only one on just the first position is taken. -/
def keepsOrder : List Segment → Bool
  | [] => true
  | .descend inner :: rest => (inner :: rest).all Segment.takesFirst
  | _ :: rest => keepsOrder rest

/-- The values are those at the places that the segments lead to, each once and in the order of the
document. -/
def InDocumentOrder (ss : List Segment) (j : Json) (vs : List Json) : Prop :=
  ∃ ps : List Place, ps.Pairwise Place.Before ∧ (∀ p, p ∈ ps ↔ Leads ss j p) ∧
    vs.map some = ps.map (valueAt? j)

variable {s : Segment} {ss : List Segment} {j v : Json} {p q : Place} {i n : Nat}

theorem zeros_before (h : n < p.length) : Place.Before (List.replicate n 0) p := by
  induction n generalizing p with
  | zero =>
    cases p with
    | nil => cases h
    | cons i p => exact .nil
  | succ n ih =>
    cases p with
    | nil => cases h
    | cons i p =>
      rw [List.replicate_succ, before_cons_iff]
      rcases Nat.eq_zero_or_pos i with rfl | hi
      · exact .inr ⟨rfl, ih (Nat.lt_of_succ_lt_succ h)⟩
      · exact .inl hi

theorem Place.Before.append_zeros (h : p.Before q) (n : Nat) :
    Place.Before (p ++ List.replicate n 0) (q ++ List.replicate n 0) := by
  unfold Place.Before at h
  induction h with
  | nil =>
    refine zeros_before ?_
    rw [List.length_append, List.length_replicate, List.length_cons]
    omega
  | rel h => exact .rel h
  | cons _ ih => exact .cons ih

section First

theorem eq_zero_of_empty_key {members : List (String × Json)} (h : ascending members = true)
    (hi : members[i]?.any (·.1 == "") = true) : i = 0 := by
  cases members with
  | nil => cases hi
  | cons first rest =>
    cases i with
    | zero => rfl
    | succ i =>
      obtain ⟨m, hm, hname⟩ := (Option.any_eq_true _ _).1 hi
      have hlt := (List.pairwise_cons.1 (of_decide_eq_true h)).1 m (List.mem_of_getElem? hm)
      rw [beq_iff_eq.1 hname, String.lt_iff_toList_lt] at hlt
      exact absurd hlt (List.not_lt_nil _)

theorem eq_zero_of_takes (hj : held j = true) (hs : s.takesFirst = true) (hi : i < (children j).length)
    (htakes : s.takes j i = true) : i = 0 := by
  cases s with
  | key name =>
    obtain rfl : name = "" := beq_iff_eq.1 hs
    cases j with
    | obj members => exact eq_zero_of_empty_key (Bool.and_eq_true_iff.1 hj).1 htakes
    | _ => cases htakes
  | index n =>
    obtain rfl : n = 0 := beq_iff_eq.1 hs
    cases j with
    | arr items =>
      have hposition := (takes_index hi).1 htakes
      simpa using hposition
    | _ => cases htakes
  | _ => cases hs

theorem Segment.Leads.eq_zero (hj : held j = true) (hs : s.takesFirst = true) (h : s.Leads j p) :
    p = [0] := by
  have hdirect : ∃ i, p = [i] ∧ s.takes j i = true ∧ i < (children j).length := by
    cases s with
    | descend inner => cases hs
    | _ => exact h
  obtain ⟨i, rfl, htakes, hi⟩ := hdirect
  rw [eq_zero_of_takes hj hs hi htakes]

theorem Leads.eq_zeros (hj : held j = true) (hss : ∀ s ∈ ss, s.takesFirst = true)
    (h : Leads ss j p) : p = List.replicate ss.length 0 := by
  induction ss generalizing j p with
  | nil => exact h
  | cons s rest ih =>
    obtain ⟨hs, hrest⟩ := List.forall_mem_cons.1 hss
    obtain ⟨q, r, v, rfl, hq, hv, hr⟩ := h
    rw [hq.eq_zero hj hs, ih (held_of_valueAt? hj hv) hrest hr]
    rfl

end First

section Order

theorem pairwise_locateDirect {f : Json → List (Place × Json)}
    (hf : ∀ l ∈ s.locateDirect j, (f l.2).Pairwise fun a b => a.1.Before b.1) :
    ((s.locateDirect j).flatMap fun l => (f l.2).map (under l.1)).Pairwise
      fun a b => a.1.Before b.1 := by
  rw [Segment.locateDirect, List.flatMap_map]
  refine pairwise_positions ((pairwise_zipIdx _).filter _) fun c hc => ?_
  exact hf ([c.2], c.1) (List.mem_map.2 ⟨c, hc, rfl⟩)

theorem pairwise_of_takesFirst (hj : held j = true) (hss : ∀ s ∈ ss, s.takesFirst = true) :
    (locateAll ss j).Pairwise fun a b => a.1.Before b.1 := by
  induction ss generalizing j with
  | nil => exact List.pairwise_singleton _ _
  | cons s rest ih =>
    obtain ⟨hs, hrest⟩ := List.forall_mem_cons.1 hss
    have hbelow : ∀ l ∈ s.locate j, (locateAll rest l.2).Pairwise fun a b => a.1.Before b.1 :=
      fun l hl => ih (held_of_mem_locate hj hl) hrest
    cases s with
    | descend inner => cases hs
    | _ => exact pairwise_locateDirect hbelow

theorem locateAll_descend (inner : Segment) (rest : List Segment) (j : Json) :
    locateAll (.descend inner :: rest) j =
      (locations j).flatMap fun l => (locateAll (inner :: rest) l.2).map (under l.1) := by
  rw [locateAll, Segment.locate, List.flatMap_assoc]
  refine List.flatMap_congr fun l _ => ?_
  rw [locateAll, List.flatMap_map, List.map_flatMap]
  refine List.flatMap_congr fun m _ => ?_
  rw [List.map_map]
  refine List.map_congr_left fun x _ => ?_
  simp only [Function.comp_apply, under, List.append_assoc]

theorem pairwise_descend {inner : Segment} {rest : List Segment} (hj : held j = true)
    (hfirst : ∀ s ∈ inner :: rest, s.takesFirst = true) :
    (locateAll (.descend inner :: rest) j).Pairwise fun a b => a.1.Before b.1 := by
  have hzeros : ∀ l ∈ locations j, ∀ m ∈ (locateAll (inner :: rest) l.2).map (under l.1),
      m.1 = l.1 ++ List.replicate (inner :: rest).length 0 := by
    intro l hl m hm
    obtain ⟨x, hx, rfl⟩ := List.mem_map.1 hm
    exact congrArg (l.1 ++ ·) ((mem_locateAll_iff.1 hx).1.eq_zeros (held_of_mem_locations hj hl) hfirst)
  rw [locateAll_descend, List.pairwise_flatMap]
  constructor
  · intro l hl
    exact pairwise_under (pairwise_of_takesFirst (held_of_mem_locations hj hl) hfirst) l.1
  · refine (pairwise_locations j).imp_of_mem ?_
    intro a b ha hb hab x hx y hy
    rw [hzeros a ha x hx, hzeros b hb y hy]
    exact hab.append_zeros _

theorem pairwise_locateAll (hj : held j = true) (hss : keepsOrder ss = true) :
    (locateAll ss j).Pairwise fun a b => a.1.Before b.1 := by
  induction ss generalizing j with
  | nil => exact List.pairwise_singleton _ _
  | cons s rest ih =>
    have hbelow : keepsOrder rest = true → ∀ l ∈ s.locate j,
        (locateAll rest l.2).Pairwise fun a b => a.1.Before b.1 :=
      fun hrest l hl => ih (held_of_mem_locate hj hl) hrest
    cases s with
    | descend inner => exact pairwise_descend hj (List.all_eq_true.1 hss)
    | _ => exact pairwise_locateDirect (hbelow hss)

theorem exists_places (ss : List Segment) (hj : held j = true) :
    ∃ ps : List Place, (∀ p, p ∈ ps ↔ Leads ss j p) ∧
      (Segment.selectAll ss [j]).map some = ps.map (valueAt? j) ∧
      (keepsOrder ss = true → ps.Pairwise Place.Before) := by
  refine ⟨(locateAll ss j).map (·.1), fun p => ?_, ?_, fun hss => ?_⟩
  · rw [List.mem_map]
    constructor
    · rintro ⟨l, hl, rfl⟩
      exact (mem_locateAll_iff.1 hl).1
    · intro h
      obtain ⟨v, hv⟩ := h.exists_value
      exact ⟨(p, v), mem_locateAll_iff.2 ⟨h, hv⟩, rfl⟩
  · rw [← map_locateAll hj, List.map_map, List.map_map]
    exact List.map_congr_left fun l hl => (mem_locateAll_iff.1 hl).2.symm
  · exact List.pairwise_map.2 (pairwise_locateAll hj hss)

theorem inDocumentOrder_of_keepsOrder (hj : held j = true) (hss : keepsOrder ss = true) :
    InDocumentOrder ss j (Segment.selectAll ss [j]) := by
  obtain ⟨ps, hleads, hvalues, hps⟩ := exists_places ss hj
  exact ⟨ps, hps hss, hleads, hvalues⟩

end Order

end StorePolicy.Path

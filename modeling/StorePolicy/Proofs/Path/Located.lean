import StorePolicy.Proofs.Json.Memory
import StorePolicy.Proofs.Path.Fallback
import StorePolicy.Proofs.Path.Selection

/-!
# The places that a JSON path leads to

A path leads from a value to places in it: a key to the member of that name, a position to an item, and
a descent to wherever its selector leads to from any place. In a value in memory, where the keys
of an object differ, what the path selects stands at these places, in the order in which the segments
come to them; a place that they come to twice is there twice.
-/
namespace StorePolicy.Path

open Json

/-- A segment takes the value at this position among those directly below a value. -/
def Segment.takes : Segment → Json → Nat → Bool
  | .key name, .obj members, i => members[i]?.any (·.1 == name)
  | .index n, .arr items, i => (i : Int) == n || (i : Int) - items.length == n
  | .all, _, _ => true
  | _, _, _ => false

/-- A segment leads from a value to a place in it. -/
def Segment.Leads : Segment → Json → Place → Prop
  | .descend inner, j, p => ∃ q r v, p = q ++ r ∧ valueAt? j q = some v ∧ inner.Leads v r
  | s, j, p => ∃ i, p = [i] ∧ s.takes j i = true ∧ i < (children j).length

def Leads : List Segment → Json → Place → Prop
  | [], _, p => p = []
  | s :: rest, j, p => ∃ q r v, p = q ++ r ∧ s.Leads j q ∧ valueAt? j q = some v ∧ Leads rest v r

def Segment.locateDirect (s : Segment) (j : Json) : List (Place × Json) :=
  ((children j).zipIdx.filter fun c => s.takes j c.2).map fun c => ([c.2], c.1)

/-- What a segment selects, with the places. -/
def Segment.locate : Segment → Json → List (Place × Json)
  | .descend inner, j => (locations j).flatMap fun l => (inner.locate l.2).map (under l.1)
  | s, j => s.locateDirect j

def locateAll : List Segment → Json → List (Place × Json)
  | [], j => [([], j)]
  | s :: rest, j => (s.locate j).flatMap fun l => (locateAll rest l.2).map (under l.1)

variable {s : Segment} {ss : List Segment} {j c v : Json} {p q : Place} {name : String}

theorem valueAt?_append (p q : Place) (j : Json) :
    valueAt? j (p ++ q) = (valueAt? j p).bind fun v => valueAt? v q := by
  induction p generalizing j with
  | nil => rfl
  | cons i p ih => simp only [List.cons_append, valueAt?, ih, Option.bind_assoc]

theorem lt_length_children {i : Nat} (h : valueAt? j [i] = some v) : i < (children j).length := by
  obtain ⟨c, hc, -⟩ := Option.bind_eq_some_iff.1 h
  exact (List.getElem?_eq_some_iff.1 hc).1

theorem held_of_mem_children (hj : held j = true) (hc : c ∈ children j) : held c = true := by
  cases j with
  | arr items => exact heldItems_iff.1 hj c hc
  | obj members =>
    obtain ⟨m, hm, rfl⟩ := List.mem_map.1 hc
    exact heldMembers_iff.1 (Bool.and_eq_true_iff.1 hj).2 m hm
  | _ => cases hc

theorem held_of_valueAt? (hj : held j = true) (h : valueAt? j p = some v) : held v = true := by
  induction p generalizing j with
  | nil => exact Option.some.inj h ▸ hj
  | cons i p ih =>
    obtain ⟨c, hc, hv⟩ := Option.bind_eq_some_iff.1 h
    exact ih (held_of_mem_children hj (List.mem_of_getElem? hc)) hv

section Places

theorem mem_flatMap_under_iff {ls : List (Place × Json)} {f : Json → List (Place × Json)} :
    (p, v) ∈ (ls.flatMap fun l => (f l.2).map (under l.1)) ↔
      ∃ q r w, p = q ++ r ∧ (q, w) ∈ ls ∧ (r, v) ∈ f w := by
  simp only [List.mem_flatMap, List.mem_map, Prod.exists, under, Prod.mk.injEq]
  constructor
  · rintro ⟨q, w, hq, r, u, hr, rfl, rfl⟩
    exact ⟨q, r, w, rfl, hq, hr⟩
  · rintro ⟨q, r, w, rfl, hq, hr⟩
    exact ⟨q, w, hq, r, v, hr, rfl, rfl⟩

theorem mem_children_iff {i : Nat} : (c, i) ∈ (children j).zipIdx ↔ valueAt? j [i] = some c := by
  rw [List.mk_mem_zipIdx_iff_getElem?, valueAt?]
  cases (children j)[i]? <;> rfl

theorem mem_locateDirect_iff : (p, v) ∈ s.locateDirect j ↔
      (∃ i, p = [i] ∧ s.takes j i = true ∧ i < (children j).length) ∧ valueAt? j p = some v := by
  simp only [Segment.locateDirect, List.mem_map, List.mem_filter, Prod.exists, Prod.mk.injEq,
    mem_children_iff]
  constructor
  · rintro ⟨c, i, ⟨hc, htakes⟩, rfl, rfl⟩
    exact ⟨⟨i, rfl, htakes, lt_length_children hc⟩, hc⟩
  · rintro ⟨⟨i, rfl, htakes, -⟩, hv⟩
    exact ⟨v, i, ⟨hv, htakes⟩, rfl, rfl⟩

theorem Segment.mem_locate_iff : (p, v) ∈ s.locate j ↔ s.Leads j p ∧ valueAt? j p = some v := by
  induction s generalizing j p v with
  | descend inner ih =>
    rw [locate, mem_flatMap_under_iff]
    simp only [Leads, mem_locations_iff, ih]
    constructor
    · rintro ⟨q, r, w, rfl, hq, hr, hv⟩
      exact ⟨⟨q, r, w, rfl, hq, hr⟩, by rwa [valueAt?_append, hq]⟩
    · rintro ⟨⟨q, r, w, rfl, hq, hr⟩, hv⟩
      rw [valueAt?_append, hq] at hv
      exact ⟨q, r, w, rfl, hq, hr, hv⟩
  | _ => exact mem_locateDirect_iff

theorem held_of_mem_locations {l : Place × Json} (hj : held j = true) (hl : l ∈ locations j) :
    held l.2 = true :=
  held_of_valueAt? hj (mem_locations_iff.1 hl)

theorem held_of_mem_locate {l : Place × Json} (hj : held j = true) (hl : l ∈ s.locate j) :
    held l.2 = true :=
  held_of_valueAt? hj (Segment.mem_locate_iff.1 hl).2

theorem mem_locateAll_iff : (p, v) ∈ locateAll ss j ↔ Leads ss j p ∧ valueAt? j p = some v := by
  induction ss generalizing j p v with
  | nil =>
    rw [locateAll, List.mem_singleton, Prod.mk.injEq, Leads]
    refine and_congr_right fun hp => ?_
    rw [hp, valueAt?, Option.some_inj, eq_comm]
  | cons s rest ih =>
    rw [locateAll, mem_flatMap_under_iff]
    simp only [Leads, Segment.mem_locate_iff, ih]
    constructor
    · rintro ⟨q, r, w, rfl, ⟨hq, hw⟩, hr, hv⟩
      exact ⟨⟨q, r, w, rfl, hq, hw, hr⟩, by rwa [valueAt?_append, hw]⟩
    · rintro ⟨⟨q, r, w, rfl, hq, hw, hr⟩, hv⟩
      rw [valueAt?_append, hw] at hv
      exact ⟨q, r, w, rfl, ⟨hq, hw⟩, hr, hv⟩

theorem Leads.exists_value (h : Leads ss j p) : ∃ v, valueAt? j p = some v := by
  induction ss generalizing j p with
  | nil => exact ⟨j, h ▸ rfl⟩
  | cons s rest ih =>
    obtain ⟨q, r, v, rfl, -, hv, hr⟩ := h
    rw [valueAt?_append, hv]
    exact ih hr

end Places

section Values

theorem filter_eq_lookup {members : List (String × Json)} (h : ascending members = true) :
    (members.filter (·.1 == name)).map (·.2) = (members.lookup name).toList := by
  have hpairwise : members.Pairwise fun a b => a.1 < b.1 := of_decide_eq_true h
  clear h
  induction members with
  | nil => rfl
  | cons m rest ih =>
    obtain ⟨hm, hrest⟩ := List.pairwise_cons.1 hpairwise
    rw [List.filter_cons, List.lookup_cons]
    by_cases hname : m.1 = name
    · have hnone : rest.filter (·.1 == name) = [] := by
        rw [List.filter_eq_nil_iff]
        intro n hn heq
        exact (hm n hn).ne (hname.trans (beq_iff_eq.1 heq).symm)
      simp [hname, hnone]
    · have hother : (name == m.1) = false := beq_false_of_ne (Ne.symm hname)
      simp [hname, hother, ih hrest]

theorem map_locateDirect (s : Segment) (j : Json) : (s.locateDirect j).map (·.2) =
    ((children j).zipIdx.filter fun c => s.takes j c.2).map (·.1) := by
  rw [Segment.locateDirect, List.map_map]
  rfl

theorem select_key (hj : held j = true) :
    ((Segment.key name).locateDirect j).map (·.2) = (j.get? name).toList := by
  rw [map_locateDirect]
  cases j with
  | obj members =>
    have htakes : ∀ m ∈ members.zipIdx,
        (Segment.key name).takes (.obj members) m.2 = (m.1.1 == name) := by
      intro m hm
      rw [Segment.takes, List.mem_zipIdx_iff_getElem?.1 hm]
      rfl
    have hfilter : (members.zipIdx.filter fun m => (Segment.key name).takes (.obj members) m.2).map
        (·.1) = members.filter (·.1 == name) := by
      rw [List.filter_congr htakes]
      conv => rhs; rw [← List.zipIdx_map_fst 0 members, List.filter_map]
      rfl
    rw [get?, members?, Option.bind_some, ← filter_eq_lookup (Bool.and_eq_true_iff.1 hj).1, ← hfilter,
      children, List.zipIdx_map, List.filter_map, List.map_map, List.map_map]
    rfl
  | _ => simp [get?, members?, Segment.takes]

theorem filter_position (items : List Json) (i k : Nat) :
    ((items.zipIdx i).filter fun c => c.2 == i + k).map (·.1) = items[k]?.toList := by
  induction items generalizing i k with
  | nil => rfl
  | cons item rest ih =>
    rw [List.zipIdx_cons, List.filter_cons]
    cases k with
    | zero =>
      have hnone : (rest.zipIdx (i + 1)).filter (fun c => c.2 == i) = [] := by
        rw [List.filter_eq_nil_iff]
        intro c hc heq
        have hlate := List.le_snd_of_mem_zipIdx hc
        have hsame : c.2 = i := beq_iff_eq.1 heq
        omega
      simp only [Nat.add_zero, hnone, beq_self_eq_true, if_true, List.map_cons, List.map_nil,
        List.getElem?_cons_zero, Option.toList_some]
    | succ k =>
      have hnext : ∀ c : Json × Nat, (c.2 == i + (k + 1)) = (c.2 == i + 1 + k) := by
        intro c
        rw [Nat.add_assoc, Nat.add_comm 1 k]
      simp [hnext, ih (i + 1) k]

theorem takes_index {items : List Json} {n : Int} {i : Nat} (hi : i < items.length) :
    (Segment.index n).takes (.arr items) i = true ↔
      (i : Int) = if n < 0 then items.length + n else n := by
  simp only [Segment.takes, Bool.or_eq_true, beq_iff_eq]
  split <;> omega

theorem select_index {n : Int} :
    ((Segment.index n).locateDirect j).map (·.2) = ((j.items?).bind (itemAt? · n)).toList := by
  rw [map_locateDirect]
  cases j with
  | arr items =>
    rw [items?, Option.bind_some, itemAt?, children]
    generalize hposition : (if n < 0 then (items.length : Int) + n else n) = position
    have htakes : ∀ c ∈ items.zipIdx,
        (Segment.index n).takes (.arr items) c.2 = decide ((c.2 : Int) = position) := by
      intro c hc
      rw [Bool.eq_iff_iff, decide_eq_true_eq, takes_index (List.snd_lt_of_mem_zipIdx hc), hposition]
    rw [List.filter_congr htakes]
    by_cases hout : position < 0
    · have hnone : ∀ c : Json × Nat, decide ((c.2 : Int) = position) = false := by
        intro c
        rw [decide_eq_false_iff_not]
        omega
      simp [hnone, hout]
    · have hsome : ∀ c : Json × Nat,
          decide ((c.2 : Int) = position) = (c.2 == 0 + position.toNat) := by
        intro c
        rw [Bool.eq_iff_iff, decide_eq_true_eq, beq_iff_eq]
        omega
      simp only [hsome, hout, if_false, filter_position items 0]
  | _ => simp [items?, Segment.takes]

theorem select_all : (Segment.all.locateDirect j).map (·.2) = children j := by
  rw [map_locateDirect]
  simp [Segment.takes]

theorem Segment.map_locate (hj : held j = true) : (s.locate j).map (·.2) = s.select j := by
  induction s generalizing j with
  | key name => exact select_key hj
  | index n => exact select_index
  | all => exact select_all
  | descend inner ih =>
    rw [select_descend, ← map_locations, List.flatMap_map, locate, List.map_flatMap]
    refine List.flatMap_congr fun l hl => ?_
    rw [List.map_map, ← ih (held_of_mem_locations hj hl)]
    rfl

/-- What segments select stands at the places they lead to. -/
theorem map_locateAll (hj : held j = true) :
    (locateAll ss j).map (·.2) = Segment.selectAll ss [j] := by
  induction ss generalizing j with
  | nil => rfl
  | cons s rest ih =>
    rw [selectAll_cons, ← Segment.map_locate hj, selectAll_eq_flatMap, List.flatMap_map, locateAll,
      List.map_flatMap]
    refine List.flatMap_congr fun l hl => ?_
    rw [List.map_map, ← ih (held_of_mem_locate hj hl)]
    rfl

end Values

end StorePolicy.Path

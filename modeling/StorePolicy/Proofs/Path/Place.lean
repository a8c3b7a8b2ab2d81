import Mathlib.Data.List.Basic
import Mathlib.Data.List.Flatten
import Mathlib.Data.List.Lex
import StorePolicy.Path.Segment

/-!
# Places in a JSON value

A place is the list of positions that leads to it from the value, the outermost first. In the order of
the document a place comes before those below it, and what stands earlier in an array or an object
comes before what stands later. All places of a value are listed in this order, each once.
-/
namespace StorePolicy.Path

abbrev Place := List Nat

def Place.Before (p q : Place) : Prop := List.Lex (· < ·) p q

def valueAt? : Json → Place → Option Json
  | j, [] => some j
  | j, i :: p => (children j)[i]?.bind fun c => valueAt? c p

def under (p : Place) (l : Place × Json) : Place × Json := (p ++ l.1, l.2)

mutual
/-- All places in a value with what is there. -/
def locations : Json → List (Place × Json)
  | .arr items => ([], .arr items) :: itemLocations 0 items
  | .obj members => ([], .obj members) :: memberLocations 0 members
  | .null => [([], .null)]
  | .bool b => [([], .bool b)]
  | .int i => [([], .int i)]
  | .float d => [([], .float d)]
  | .str s => [([], .str s)]

def itemLocations (i : Nat) : List Json → List (Place × Json)
  | [] => []
  | j :: rest => (locations j).map (under [i]) ++ itemLocations (i + 1) rest

def memberLocations (i : Nat) : List (String × Json) → List (Place × Json)
  | [] => []
  | (_, j) :: rest => (locations j).map (under [i]) ++ memberLocations (i + 1) rest
end

variable {j c v : Json} {p q : Place} {i n : Nat}

theorem before_cons_iff : Place.Before (i :: p) (n :: q) ↔ i < n ∨ i = n ∧ p.Before q :=
  List.cons_lex_cons_iff

theorem not_before_nil : ¬Place.Before p [] := by
  intro h
  cases h

theorem length_subvalues_lt (h : c ∈ children j) : (subvalues c).length < (subvalues j).length := by
  have hsublist : (subvalues c).Sublist ((children j).flatMap subvalues) := by
    simpa using (List.singleton_sublist.2 h).flatMap subvalues
  rw [subvalues_eq j, List.length_cons]
  exact Nat.lt_succ_of_le hsublist.length_le

theorem children_induction {motive : Json → Prop}
    (step : ∀ j, (∀ c ∈ children j, motive c) → motive j) (j : Json) : motive j :=
  step j fun c _ => children_induction step c
termination_by (subvalues j).length
decreasing_by exact length_subvalues_lt ‹_›

theorem itemLocations_eq (i : Nat) (items : List Json) :
    itemLocations i items =
      (items.zipIdx i).flatMap fun c => (locations c.1).map (under [c.2]) := by
  induction items generalizing i with
  | nil => rfl
  | cons j rest ih => rw [itemLocations, ih, List.zipIdx_cons, List.flatMap_cons]

theorem memberLocations_eq (i : Nat) (members : List (String × Json)) :
    memberLocations i members =
      ((members.map (·.2)).zipIdx i).flatMap fun c => (locations c.1).map (under [c.2]) := by
  induction members generalizing i with
  | nil => rfl
  | cons m rest ih => rw [memberLocations, ih, List.map_cons, List.zipIdx_cons, List.flatMap_cons]

theorem locations_eq (j : Json) : locations j =
    ([], j) :: (children j).zipIdx.flatMap fun c => (locations c.1).map (under [c.2]) := by
  cases j with
  | arr items => rw [locations, itemLocations_eq, children]
  | obj members => rw [locations, memberLocations_eq, children]
  | _ => rfl

theorem map_locations (j : Json) : (locations j).map (·.2) = subvalues j := by
  induction j using children_induction with
  | step j ih =>
    have hbelow : ∀ c ∈ (children j).zipIdx,
        ((locations c.1).map (under [c.2])).map (·.2) = subvalues c.1 := by
      intro c hc
      rw [List.map_map, ← ih c.1 (List.fst_mem_of_mem_zipIdx hc)]
      rfl
    rw [locations_eq, subvalues_eq, List.map_cons, List.map_flatMap, List.flatMap_congr hbelow,
      ← List.flatMap_map Prod.fst, List.zipIdx_map_fst]

theorem mem_locations_iff : (p, v) ∈ locations j ↔ valueAt? j p = some v := by
  induction p generalizing j with
  | nil => simp [locations_eq j, valueAt?, under, eq_comm]
  | cons i p ih =>
    rw [locations_eq, valueAt?, Option.bind_eq_some_iff, List.mem_cons, or_iff_right (by simp),
      List.mem_flatMap]
    constructor
    · rintro ⟨⟨c, k⟩, hc, hl⟩
      obtain ⟨⟨q, w⟩, hq, heq⟩ := List.mem_map.1 hl
      cases heq
      exact ⟨c, List.mk_mem_zipIdx_iff_getElem?.1 hc, ih.1 hq⟩
    · rintro ⟨c, hc, hv⟩
      exact ⟨(c, i), List.mk_mem_zipIdx_iff_getElem?.2 hc, List.mem_map.2 ⟨(p, v), ih.2 hv, rfl⟩⟩

theorem pairwise_zipIdx (js : List Json) : js.zipIdx.Pairwise fun a b => a.2 < b.2 := by
  have hpositions : (js.zipIdx.map Prod.snd).Pairwise (· < ·) := by
    rw [List.zipIdx_map_snd]
    exact List.pairwise_lt_range' 1
  exact List.pairwise_map.1 hpositions

theorem pairwise_under {ls : List (Place × Json)} (h : ls.Pairwise fun a b => a.1.Before b.1)
    (p : Place) : (ls.map (under p)).Pairwise fun a b => a.1.Before b.1 :=
  h.map _ fun _ _ hab => List.Lex.append_left _ hab p

theorem pairwise_positions {cs : List (Json × Nat)} {f : Json → List (Place × Json)}
    (hcs : cs.Pairwise fun a b => a.2 < b.2)
    (hf : ∀ c ∈ cs, (f c.1).Pairwise fun a b => a.1.Before b.1) :
    (cs.flatMap fun c => (f c.1).map (under [c.2])).Pairwise fun a b => a.1.Before b.1 := by
  rw [List.pairwise_flatMap]
  constructor
  · intro c hc
    exact pairwise_under (hf c hc) [c.2]
  · refine hcs.imp fun hab x hx y hy => ?_
    obtain ⟨x, -, rfl⟩ := List.mem_map.1 hx
    obtain ⟨y, -, rfl⟩ := List.mem_map.1 hy
    exact before_cons_iff.2 (.inl hab)

theorem pairwise_locations (j : Json) : (locations j).Pairwise fun a b => a.1.Before b.1 := by
  induction j using children_induction with
  | step j ih =>
    rw [locations_eq, List.pairwise_cons]
    constructor
    · intro l hl
      obtain ⟨c, -, hl⟩ := List.mem_flatMap.1 hl
      obtain ⟨l, -, rfl⟩ := List.mem_map.1 hl
      exact .nil
    · exact pairwise_positions (pairwise_zipIdx _)
        fun c hc => ih c.1 (List.fst_mem_of_mem_zipIdx hc)

end StorePolicy.Path

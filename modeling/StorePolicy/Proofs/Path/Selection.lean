import StorePolicy.Proofs.Path.Grammar
import StorePolicy.Proofs.Path.Place

/-!
# What a JSON path selects

What a segment selects is said here of the value alone, by recursion on the segment: a member, an item
counted from either end, everything directly below, or what a segment selects at each of all places.
The search below a value works on a stack; it comes to every place exactly once, in the order
of the document, and so a path selects what its segments select one after the other.
-/
namespace StorePolicy.Path

/-- What a segment selects. Positions from the end are positions in the reversed array. -/
def Segment.picks : Segment → Json → List Json
  | .key name, .obj members => (members.lookup name).toList
  | .index i, .arr items =>
    (if i < 0 then items.reverse[(-i - 1).toNat]? else items[i.toNat]?).toList
  | .all, .arr items => items
  | .all, .obj members => members.map (·.2)
  | .descend inner, j => (locations j).flatMap fun l => inner.picks l.2
  | _, _ => []

variable {j : Json}

theorem itemAt?_eq (items : List Json) (i : Int) :
    itemAt? items i = if i < 0 then items.reverse[(-i - 1).toNat]? else items[i.toNat]? := by
  rw [itemAt?]
  by_cases hi : i < 0
  · simp only [hi, if_true]
    by_cases hout : (items.length : Int) + i < 0
    · have hlong : items.reverse.length ≤ (-i - 1).toNat := by
        rw [List.length_reverse]
        omega
      rw [if_pos hout, List.getElem?_eq_none hlong]
    · have hposition : items.length - 1 - (-i - 1).toNat = ((items.length : Int) + i).toNat := by omega
      rw [if_neg hout, List.getElem?_reverse (by omega), hposition]
  · simp only [hi, if_false]

theorem Segment.select_eq_picks (s : Segment) (j : Json) : s.select j = s.picks j := by
  induction s generalizing j with
  | key name => cases j <;> rfl
  | index i =>
    cases j with
    | arr items => exact congrArg Option.toList (itemAt?_eq items i)
    | _ => rfl
  | all => cases j <;> rfl
  | descend inner ih =>
    rw [select_descend, ← map_locations, List.flatMap_map, picks]
    exact List.flatMap_congr fun l _ => ih l.2

theorem select_descend_key (name : String) (j : Json) :
    (Segment.descend (.key name)).select j =
      (locations j).filterMap fun l => l.2.get? name := by
  rw [Segment.select_descend, ← map_locations, List.flatMap_map, List.filterMap_eq_flatMap_toList]
  rfl

theorem selectAll_eq_picks (ss : List Segment) (nodes : List Json) :
    Segment.selectAll ss nodes = ss.foldl (fun nodes s => nodes.flatMap s.picks) nodes := by
  have hselect : Segment.select = Segment.picks := funext fun s => funext s.select_eq_picks
  rw [Segment.selectAll, hselect]

/-- A text has matches if it is a path of the grammar: those that the segments it is written for
select. -/
theorem matches?_eq_some_iff {path : String} {vs : List Json} :
    matches? j path = some vs ↔ ∃ ss, WrittenPath ss path ∧
      ss.foldl (fun nodes s => nodes.flatMap s.picks) [j] = vs := by
  simp only [matches?, Option.map_eq_some_iff, segments?_eq_some_iff, selectAll_eq_picks]

/-- A JSON path selects what its segments select one after the other, each from all values so far, and
a descent searches all places of a value, each once and in the order of the document. -/
theorem matches_eq_picks (j : Json) (path : String) :
    matches? j path = (segments? path).map
      (fun ss => ss.foldl (fun nodes s => nodes.flatMap s.picks) [j]) ∧
    (∀ p v, (p, v) ∈ locations j ↔ valueAt? j p = some v) ∧
    (locations j).Pairwise (fun a b => a.1.Before b.1) ∧
    ∀ name, (Segment.descend (.key name)).select j =
      (locations j).filterMap fun l => l.2.get? name := by
  refine ⟨?_, fun _ _ => mem_locations_iff, pairwise_locations j,
    fun name => select_descend_key name j⟩
  simp only [matches?, selectAll_eq_picks]

end StorePolicy.Path

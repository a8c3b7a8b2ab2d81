import Mathlib.Data.String.Basic
import StorePolicy.Decode.Content

/-!
# JSON values in memory

A value in memory holds finite doubles only, and the members of its objects in the order of their
keys, each key once. What is written as a JSON value is brought into this order, and a value that is
held already stays as it is; so does one that is set aside as content and read back.
-/
namespace StorePolicy

namespace Json

mutual
/-- The value as it is held in memory: its objects are sorted at every depth. -/
def sorted : Json → Json
  | .arr items => .arr (sortedItems items)
  | .obj members => .obj (sortMembers (sortedMembers members))
  | .null => .null
  | .bool b => .bool b
  | .int i => .int i
  | .float d => .float d
  | .str s => .str s

def sortedItems : List Json → List Json
  | [] => []
  | j :: rest => sorted j :: sortedItems rest

def sortedMembers : List (String × Json) → List (String × Json)
  | [] => []
  | (k, j) :: rest => (k, sorted j) :: sortedMembers rest
end

def ascending (members : List (String × Json)) : Bool :=
  decide (members.Pairwise fun a b => a.1 < b.1)

mutual
/-- A value can be held in memory as it is. -/
def held : Json → Bool
  | .float d => d.isFinite
  | .arr items => heldItems items
  | .obj members => ascending members && heldMembers members
  | .null => true
  | .bool _ => true
  | .int _ => true
  | .str _ => true

def heldItems : List Json → Bool
  | [] => true
  | j :: rest => held j && heldItems rest

def heldMembers : List (String × Json) → Bool
  | [] => true
  | (_, j) :: rest => held j && heldMembers rest
end

variable {key : String} {value : Json} {members : List (String × Json)}

theorem toValues_eq_map (js : List Json) : toValues js = js.map toValue := by
  induction js with
  | nil => rfl
  | cons j rest ih => rw [toValues, ih, List.map_cons]

theorem sortedItems_eq_map (js : List Json) : sortedItems js = js.map sorted := by
  induction js with
  | nil => rfl
  | cons j rest ih => rw [sortedItems, ih, List.map_cons]

theorem sortedMembers_eq_map (ms : List (String × Json)) :
    sortedMembers ms = ms.map fun m => (m.1, m.2.sorted) := by
  induction ms with
  | nil => rfl
  | cons m rest ih => rw [sortedMembers, ih, List.map_cons]

theorem heldItems_iff {items : List Json} : heldItems items = true ↔ ∀ j ∈ items, held j = true := by
  induction items with
  | nil => simp [heldItems]
  | cons j rest ih => simp [heldItems, ih]

theorem heldMembers_iff : heldMembers members = true ↔ ∀ m ∈ members, held m.2 = true := by
  induction members with
  | nil => simp [heldMembers]
  | cons m rest ih => simp [heldMembers, ih]

theorem sortMembers_concat (ms : List (String × Json)) (m : String × Json) :
    sortMembers (ms ++ [m]) = insertMember m.1 m.2 (sortMembers ms) := by
  rw [sortMembers, sortMembers, List.foldl_append, List.foldl_cons, List.foldl_nil]

theorem exists_insertMember_eq (h : ∀ m ∈ members, m.1 ≠ key) (value : Json) : ∃ before after,
    members = before ++ after ∧ insertMember key value members = before ++ (key, value) :: after := by
  induction members with
  | nil => exact ⟨[], [], rfl, rfl⟩
  | cons m rest ih =>
    obtain ⟨hm, hrest⟩ := List.forall_mem_cons.1 h
    rw [insertMember, if_neg (Ne.symm hm)]
    split
    · exact ⟨[], m :: rest, rfl, rfl⟩
    · obtain ⟨before, after, hmembers, hinsert⟩ := ih hrest
      exact ⟨m :: before, after, by rw [hmembers, List.cons_append],
        by rw [hinsert, List.cons_append]⟩

theorem insertMember_last (h : ∀ m ∈ members, m.1 < key) :
    insertMember key value members = members ++ [(key, value)] := by
  induction members with
  | nil => rfl
  | cons m rest ih =>
    obtain ⟨k, v⟩ := m
    obtain ⟨hk, hrest⟩ := List.forall_mem_cons.1 h
    rw [insertMember, if_neg (ne_of_gt hk), if_neg (lt_asymm hk), ih hrest, List.cons_append]

theorem foldl_insertMember {before : List (String × Json)}
    (h : (before ++ members).Pairwise fun a b => a.1 < b.1) :
    members.foldl (fun acc m => insertMember m.1 m.2 acc) before = before ++ members := by
  induction members generalizing before with
  | nil => simp
  | cons m rest ih =>
    have hlast : ∀ a ∈ before, a.1 < m.1 := fun a ha =>
      (List.pairwise_append.1 h).2.2 a ha m List.mem_cons_self
    have happend : before ++ m :: rest = (before ++ [m]) ++ rest := by simp
    rw [List.foldl_cons, insertMember_last hlast, happend]
    exact ih (happend ▸ h)

theorem sortMembers_of_ascending (h : ascending members = true) : sortMembers members = members := by
  have hsorted : (([] : List (String × Json)) ++ members).Pairwise fun a b => a.1 < b.1 :=
    of_decide_eq_true h
  exact foldl_insertMember hsorted

theorem mem_insertMember {m : String × Json} (h : m ∈ insertMember key value members) :
    m = (key, value) ∨ m ∈ members := by
  induction members with
  | nil => exact .inl (List.mem_singleton.1 h)
  | cons n rest ih =>
    rw [insertMember] at h
    split at h
    · exact (List.mem_cons.1 h).imp_right (List.mem_cons_of_mem _)
    · split at h
      · exact List.mem_cons.1 h
      · rcases List.mem_cons.1 h with rfl | hm
        · exact .inr List.mem_cons_self
        · exact (ih hm).imp_right (List.mem_cons_of_mem _)

theorem mem_of_mem_sortMembers {m : String × Json} (h : m ∈ sortMembers members) : m ∈ members := by
  have hfold : ∀ acc, m ∈ members.foldl (fun acc m => insertMember m.1 m.2 acc) acc →
      m ∈ acc ∨ m ∈ members := by
    clear h
    induction members with
    | nil => exact fun acc h => .inl h
    | cons n rest ih =>
      intro acc h
      rcases ih _ h with hm | hm
      · exact (mem_insertMember hm).elim (fun heq => .inr (heq ▸ List.mem_cons_self)) .inl
      · exact .inr (List.mem_cons_of_mem _ hm)
  simpa using hfold [] h

mutual
theorem sorted_of_held : ∀ {j : Json}, held j = true → sorted j = j
  | .arr items, h => congrArg Json.arr (sortedItems_of_held h)
  | .obj members, h => by
    obtain ⟨hsorted, hmembers⟩ := Bool.and_eq_true_iff.1 h
    rw [sorted, sortedMembers_of_held hmembers, sortMembers_of_ascending hsorted]
  | .null, _ => rfl
  | .bool _, _ => rfl
  | .int _, _ => rfl
  | .float _, _ => rfl
  | .str _, _ => rfl

theorem sortedItems_of_held : ∀ {items : List Json}, heldItems items = true → sortedItems items = items
  | [], _ => rfl
  | j :: rest, h => by
    obtain ⟨hj, hrest⟩ := Bool.and_eq_true_iff.1 h
    rw [sortedItems, sorted_of_held hj, sortedItems_of_held hrest]

theorem sortedMembers_of_held : ∀ {members : List (String × Json)}, heldMembers members = true →
    sortedMembers members = members
  | [], _ => rfl
  | (k, j) :: rest, h => by
    obtain ⟨hj, hrest⟩ := Bool.and_eq_true_iff.1 h
    rw [sortedMembers, sorted_of_held hj, sortedMembers_of_held hrest]
end

end Json

namespace Content

open Json

mutual
theorem json_toValue : ∀ {j : Json}, held j = true → json j.toValue = .ok j
  | .arr items, h => by
    rw [toValue, json, jsonItems_toValues h]
    rfl
  | .obj members, h => by
    obtain ⟨hsorted, hmembers⟩ := Bool.and_eq_true_iff.1 h
    rw [toValue, json, jsonMembers_toEntries hmembers]
    exact congrArg (fun ms => Except.ok (Json.obj ms)) (sortMembers_of_ascending hsorted)
  | .float d, h => by
    have hd : d.isFinite = true := h
    simp [toValue, json, hd, pure, Except.pure]
  | .null, _ => rfl
  | .bool _, _ => rfl
  | .int _, _ => rfl
  | .str _, _ => rfl

theorem jsonItems_toValues : ∀ {items : List Json}, heldItems items = true →
    jsonItems (toValues items) = .ok items
  | [], _ => rfl
  | j :: rest, h => by
    obtain ⟨hj, hrest⟩ := Bool.and_eq_true_iff.1 h
    rw [toValues, jsonItems, json_toValue hj, jsonItems_toValues hrest]
    rfl

theorem jsonMembers_toEntries : ∀ {members : List (String × Json)} {first : Bool},
    heldMembers members = true → jsonMembers first (toEntries members) = .ok members
  | [], _, _ => rfl
  | (k, j) :: rest, _, h => by
    obtain ⟨hj, hrest⟩ := Bool.and_eq_true_iff.1 h
    rw [toEntries, jsonMembers, json_toValue hj, jsonMembers_toEntries hrest]
    rfl
end

end Content
end StorePolicy

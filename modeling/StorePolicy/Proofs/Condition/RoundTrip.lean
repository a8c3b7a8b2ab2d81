import StorePolicy.Proofs.Condition.Spelling

/-!
# Written conditions are read back

A condition that is written as a JSON value in memory is read back as it was, whatever value it
compares with, as long as that value can be held in memory itself.
-/
namespace StorePolicy.Condition

open Schema

mutual
/-- The values in a condition can be held in memory. -/
def held : Condition → Bool
  | .jsonPathEquals _ _ value => value.held
  | .composite _ checks => heldAll checks
  | _ => true

def heldAll : List Condition → Bool
  | [] => true
  | c :: rest => held c && heldAll rest
end

theorem held_of_heldAll {cs : List Condition} (h : heldAll cs = true) : ∀ c ∈ cs, held c = true := by
  induction cs with
  | nil => simp
  | cons c rest ih =>
    obtain ⟨hc, hrest⟩ := Bool.and_eq_true_iff.1 h
    exact List.forall_mem_cons.2 ⟨hc, ih hrest⟩

def written (c : Condition) : Value := c.toJson.sorted.toValue

theorem ofContent_jsonPathEquals (t p : String) {value : Json} (h : value.held = true) :
    ofContent (written (.jsonPathEquals t p value)) = .ok (.jsonPathEquals t p value) := by
  have hwritten : written (.jsonPathEquals t p value) = .map (textEntries
      [("path", .str p), ("target", .str t), ("type", .str "json_path_equals"),
        ("value", value.toValue)]) := by
    simp only [written, toJson, Json.sorted, Json.sortedMembers, Json.sortMembers, List.foldl_cons,
      List.foldl_nil, Json.insertMember, String.reduceEq, String.reduceLT, if_true, if_false,
      Json.sorted_of_held h]
    rfl
  rw [hwritten, ofContent_textEntries_eq_ok_iff (t := .str "json_path_equals") rfl rfl]
  refine ⟨{ Draft.empty with target := some t, path := some p, value := some value }, ?_, rfl, rfl⟩
  have hset : ∀ d, valueField.set d (partOf value.toValue) = .ok { d with value := some value } := by
    intro d
    change (Content.json value.toValue).map _ = _
    rw [Content.json_toValue h]
    rfl
  change valueField.set _ (partOf value.toValue) >>= pure = _
  rw [hset]
  rfl

theorem sortedItems_toJsons (cs : List Condition) :
    Json.sortedItems (toJsons cs) = cs.map fun c => c.toJson.sorted := by
  induction cs with
  | nil => rfl
  | cons c rest ih => rw [toJsons, Json.sortedItems, ih, List.map_cons]

theorem toValues_sortedItems (cs : List Condition) :
    Json.toValues (Json.sortedItems (toJsons cs)) = cs.map written := by
  rw [sortedItems_toJsons, Json.toValues_eq_map, List.map_map]
  rfl

theorem written_composite (l : Logic) (cs : List Condition) :
    written (.composite l cs) = .map (textEntries
      [("checks", .seq (cs.map written)), ("logic", .str l.name), ("type", .str "composite")]) := by
  simp only [written, toJson, Json.sorted, Json.sortedMembers, Json.sortMembers, List.foldl_cons,
    List.foldl_nil, Json.insertMember, String.reduceEq, String.reduceLT, if_true, if_false,
    Json.toValue, Json.toEntries, toValues_sortedItems, textEntries, List.map_cons, List.map_nil]

theorem written_composite_spelled (l : Logic) (cs : List Condition) :
    Written l (written (.composite l cs)) (cs.map written) := by
  rw [written_composite]
  exact .long rfl rfl rfl (by cases l <;> rfl) (.given _)

mutual
theorem ofContent_written {c : Condition} (h : held c = true) : ofContent (written c) = .ok c := by
  cases c with
  | jsonPathEquals t p value => exact ofContent_jsonPathEquals t p h
  | composite l cs =>
    exact (ofContent_written_eq_ok_iff (written_composite_spelled l cs)).2
      ⟨cs, ofContents_written h, rfl⟩
  | _ =>
    simp only [written, toJson, Json.sorted, Json.sortedMembers, Json.sortMembers, List.foldl_cons,
      List.foldl_nil, Json.insertMember, String.reduceEq, String.reduceLT, if_true, if_false]
    rfl

theorem ofContents_written {cs : List Condition} (h : heldAll cs = true) :
    ofContents (cs.map written) = .ok cs := by
  cases cs with
  | nil => rfl
  | cons c rest =>
    obtain ⟨hc, hrest⟩ := Bool.and_eq_true_iff.1 h
    rw [List.map_cons, ofContents, ofContent_written hc, ofContents_written hrest]
    rfl
end

theorem shown_written (c : Condition) : Shown JsonValue.dialect c.toJson.sorted (written c) := by
  obtain ⟨ms, hms, htype⟩ : ∃ ms, c.toJson = .obj ms ∧
      ∀ m ∈ Json.sortedMembers ms, m.1 = "type" → ∃ s, m.2 = .str s := by
    cases c <;> exact ⟨_, rfl, by simp [Json.sortedMembers, Json.sorted]⟩
  rw [written, hms]
  exact shown_obj fun m hm => htype m (Json.mem_of_mem_sortMembers hm)

theorem read_written {c : Condition} (h : held c = true) :
    read JsonValue.dialect c.toJson.sorted = .ok c :=
  (read_eq_ok_iff_of_shown (shown_written c)).2 (ofContent_written h)

end StorePolicy.Condition

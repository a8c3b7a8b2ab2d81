import StorePolicy.Proofs.Condition.RoundTrip
import StorePolicy.Rule.Codec

/-!
# Written rules are read back

A rule that is written as a JSON value in memory is read back as it was. The same is read from its
content, which is how the fields of a rule are read when they stand beside other entries.
-/
namespace StorePolicy.Rule

open Schema

/-- A form of document in which written JSON values are seen as what they are. -/
structure Sees {ν : Type} (d : Dialect ν) (shown : Json → ν) : Prop where
  direct : d.Direct
  text : ∀ s, d.text (shown (.str s)) = .ok s
  flag : ∀ b, d.flag (shown (.bool b)) = .ok b
  optional : ∀ s, d.optional (shown (.str s)) = .ok (some (shown (.str s)))
  choice : ∀ known s, known.contains s = true → d.choice known (shown (.str s)) = .ok s
  items : ∀ js, d.items (shown (.arr js)) = .ok (js.map shown)
  condition : ∀ c, Condition.held c = true → Condition.read d (shown c.toJson.sorted) = .ok c

def held (r : Rule) : Bool := Condition.heldAll r.conditions

def memory (r : Rule) : List (String × Json) := Json.sortMembers (Json.sortedMembers r.members)

theorem memory_eq (r : Rule) : r.memory =
    [("auto_fixable", .bool r.autoFixable), ("category", .str r.category),
      ("conditions", .arr (r.conditions.map fun c => c.toJson.sorted)),
      ("description", .str r.description), ("id", .str r.id), ("platform", .str r.platform.name),
      ("severity", .str r.severity.name)] ++
    optionalMember "source_url" r.sourceUrl ++ optionalMember "suggestion" r.suggestion ++
    [("title", .str r.title)] := by
  have hsorted : Json.sortedMembers r.members =
      [("id", .str r.id), ("platform", .str r.platform.name), ("title", .str r.title),
        ("description", .str r.description), ("severity", .str r.severity.name),
        ("category", .str r.category)] ++ optionalMember "source_url" r.sourceUrl ++
      [("auto_fixable", .bool r.autoFixable)] ++ optionalMember "suggestion" r.suggestion ++
      [("conditions", .arr (r.conditions.map fun c => c.toJson.sorted))] := by
    rw [← Condition.sortedItems_toJsons]
    cases hs : r.sourceUrl <;> cases hg : r.suggestion <;> simp only [members, hs, hg] <;> rfl
  rw [memory, hsorted]
  cases r.sourceUrl <;> cases r.suggestion <;>
    simp only [optionalMember, List.append_nil, List.cons_append, List.nil_append, Json.sortMembers,
      List.foldl_cons, List.foldl_nil, Json.insertMember, String.reduceEq, String.reduceLT, if_true,
      if_false]

variable {ν : Type} {d : Dialect ν} {shown : Json → ν}

theorem named_memory (d : Dialect ν) (r : Rule) :
    ∀ m ∈ r.memory, (fields d).any (·.named m.1) = true := by
  rw [memory_eq]
  cases r.sourceUrl <;> cases r.suggestion <;>
    simp [optionalMember, fields, Field.of, Field.named]

theorem Sees.platform (h : Sees d shown) (p : Platform) :
    readPlatform d (shown (.str p.name)) = .ok p := by
  rw [readPlatform, h.choice]
  · cases p <;> rfl
  · cases p <;> rfl

theorem Sees.severity (h : Sees d shown) (s : Severity) :
    readSeverity d (shown (.str s.name)) = .ok s := by
  rw [readSeverity, h.choice]
  · cases s <;> rfl
  · cases s <;> rfl

theorem Sees.optionalText (h : Sees d shown) (s : String) :
    readOptionalText d (shown (.str s)) = .ok (some s) := by
  rw [readOptionalText, h.optional]
  change (do return some (← d.text (shown (.str s)))) = _
  rw [h.text]
  rfl

theorem Sees.conditions (h : Sees d shown) {cs : List Condition} (hcs : Condition.heldAll cs = true) :
    d.list (Condition.read d) (shown (.arr (cs.map fun c => c.toJson.sorted))) = .ok cs := by
  have hitems : d.items (shown (.arr (cs.map fun c => c.toJson.sorted))) =
      .ok (cs.map fun c => shown c.toJson.sorted) := by
    rw [h.items, List.map_map]
    rfl
  exact h.direct.list_eq_ok hitems fun c hc => h.condition c (Condition.held_of_heldAll hcs c hc)

theorem foldlM_take_memory (h : Sees d shown) {r : Rule} (hr : r.held = true) :
    (r.memory.map fun m => (m.1, shown m.2)).foldlM (take d (fields d)) .empty =
      .ok ⟨some r.id, some r.platform, some r.title, some r.description, some r.severity,
        some r.category, r.sourceUrl.map some, some r.autoFixable, r.suggestion.map some,
        some r.conditions⟩ := by
  have hconditions := h.conditions hr
  rw [memory_eq]
  cases r.sourceUrl <;> cases r.suggestion <;>
    simp [optionalMember, take, field?, fields, Field.of, Field.named, Draft.empty, h.text, h.flag,
      h.platform, h.severity, h.optionalText, hconditions, Except.map, pure, Except.pure, bind,
      Except.bind]

theorem readNamed_memory (h : Sees d shown) {r : Rule} (hr : r.held = true) :
    (schema d).readNamed d (entriesOf (r.memory.map fun m => (m.1, shown m.2))) = .ok r := by
  rw [readNamed, fill_entriesOf h.direct]
  change List.foldlM (take d (fields d)) Draft.empty _ >>= (schema d).finish d = _
  rw [foldlM_take_memory h hr, Read.bind_eq_ok]
  refine ⟨_, rfl, finish_eq_ok_iff.2 ⟨rfl, ?_⟩⟩
  obtain ⟨id, platform, title, description, severity, category, source, fixable, suggestion, cs⟩ := r
  cases source <;> cases suggestion <;> rfl

theorem sees_json : Sees JsonValue.dialect (fun j => j) where
  direct := ⟨rfl, fun _ => rfl⟩
  text _ := rfl
  flag _ := rfl
  optional _ := rfl
  choice _ _ h := if_pos h
  items js := congrArg Except.ok (List.map_id' js).symm
  condition _ h := Condition.read_written h

theorem sees_content : Sees (Content.dialect .json) Json.toValue where
  direct := Content.direct .json
  text _ := rfl
  flag _ := rfl
  optional _ := rfl
  choice _ _ h := if_pos h
  items js := congrArg Except.ok (Json.toValues_eq_map js)
  condition _ h := (Condition.read_content_eq_ok_iff .json).2 (Condition.ofContent_written h)

theorem read_written {r : Rule} (h : r.held = true) :
    read JsonValue.dialect r.toJson.sorted = .ok r := by
  have hread : read JsonValue.dialect r.toJson.sorted =
      (schema JsonValue.dialect).readNamed JsonValue.dialect (entriesOf r.memory) := rfl
  rw [hread, ← List.map_id' r.memory]
  exact readNamed_memory sees_json h

end StorePolicy.Rule

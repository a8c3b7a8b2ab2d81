import StorePolicy.Proofs.Check.Faults
import StorePolicy.Proofs.Rule.RoundTrip
import StorePolicy.RuleSet.Codec

/-!
# Reading undoes writing

Rules are written again whenever rules are added to a document, so whatever is written must be read
back as it was: conditions, rules, rule-sets and candidates with their metadata. What is written
uses one spelling of composites only, and the other spellings are read as the same conditions.
-/
namespace StorePolicy

open Schema

namespace Condition

mutual
def typesIn : Json → List String
  | .obj members => typesInMembers members
  | _ => []

def typesInMembers : List (String × Json) → List String
  | [] => []
  | ("type", .str s) :: rest => s :: typesInMembers rest
  | ("checks", .arr items) :: rest => typesInItems items ++ typesInMembers rest
  | _ :: rest => typesInMembers rest

def typesInItems : List Json → List String
  | [] => []
  | j :: rest => typesIn j ++ typesInItems rest
end

mutual
/-- A composite is written as such at every depth, never under the name of its logic. -/
theorem typesIn_toJson (level : Nat) (c : Condition) :
    typesIn c.toJson = (c.preorder level).map fun node => node.2.kind := by
  cases c with
  | composite l cs =>
    rw [preorder, List.map_cons, ← typesInItems_toJsons (level + 1) cs]
    exact congrArg ("composite" :: ·) (List.append_nil _)
  | _ => rfl

theorem typesInItems_toJsons (level : Nat) (cs : List Condition) :
    typesInItems (toJsons cs) = (preorderOf level cs).map fun node => node.2.kind := by
  cases cs with
  | nil => rfl
  | cons c rest =>
    rw [toJsons, typesInItems, typesIn_toJson level c, typesInItems_toJsons level rest, preorderOf,
      List.map_append]
end

end Condition

namespace RuleSet

def held (s : RuleSet) : Bool := s.rules.all Rule.held

theorem sorted_toJson (s : RuleSet) : s.toJson.sorted =
    .obj [("last_updated", .str s.lastUpdated), ("rules", .arr (s.rules.map fun r => r.toJson.sorted)),
      ("version", .str s.version)] := by
  simp only [toJson, Json.sorted, Json.sortedMembers, Json.sortedItems_eq_map, List.map_map,
    Json.sortMembers, List.foldl_cons, List.foldl_nil, Json.insertMember, String.reduceEq,
    String.reduceLT, if_true, if_false]
  rfl

theorem ofJson_written {s : RuleSet} (h : s.held = true) : ofJson s.toJson.sorted = .ok s := by
  have hread : ofJson s.toJson.sorted = (schema JsonValue.dialect).readNamed JsonValue.dialect (entriesOf
      [("last_updated", .str s.lastUpdated), ("rules", .arr (s.rules.map fun r => r.toJson.sorted)),
        ("version", .str s.version)]) := by
    rw [sorted_toJson]
    rfl
  have hrules : JsonValue.dialect.list (Rule.read JsonValue.dialect)
      (.arr (s.rules.map fun r => r.toJson.sorted)) = .ok s.rules :=
    Rule.sees_json.direct.list_eq_ok rfl fun r hr => Rule.read_written (List.all_eq_true.1 h r hr)
  rw [hread, readNamed, fill_entriesOf Rule.sees_json.direct]
  simp [take, field?, schema, fields, Field.of, Field.named, finish, missing?, Rule.sees_json.text,
    hrules, Except.map, pure, Except.pure, bind, Except.bind]

end RuleSet

namespace PolicyRule

theorem metadata_written (m : RuleMetadata) :
    RuleMetadata.read JsonValue.dialect m.toJson.sorted = .ok m := by
  have hsorted : m.toJson.sorted = .obj [("ai_reasoning", .str m.reasoning), ("quote", .str m.quote),
      ("source_url", .str m.sourceUrl)] := by
    simp only [RuleMetadata.toJson, Json.sorted, Json.sortedMembers, Json.sortMembers, List.foldl_cons,
      List.foldl_nil, Json.insertMember, String.reduceEq, String.reduceLT, if_true, if_false]
  rw [hsorted]
  rfl

theorem sorted_toJson (p : PolicyRule) : p.toJson.sorted =
    .obj (Json.insertMember metadataKey p.metadata.toJson.sorted p.rule.memory) := by
  rw [toJson, Json.sorted, Json.sortedMembers_eq_map, List.map_append, ← Json.sortedMembers_eq_map]
  exact congrArg Json.obj (Json.sortMembers_concat _ _)

theorem ne_metadataKey_of_mem_memory {r : Rule} : ∀ m ∈ r.memory, m.1 ≠ metadataKey := by
  intro m hm hkey
  have hnamed := Rule.named_memory JsonValue.dialect r m hm
  rw [hkey] at hnamed
  cases hnamed

theorem collect_append {ms : List (String × Json)} (h : ∀ m ∈ ms, m.1 ≠ metadataKey)
    (metadata : Option RuleMetadata) (others : List (String × Value)) (es : List (Entry Json)) :
    collect JsonValue.dialect metadata others (entriesOf ms ++ es) =
      collect JsonValue.dialect metadata ((ms.map fun m => (m.1, m.2.toValue)).reverse ++ others) es := by
  induction ms generalizing others with
  | nil => rfl
  | cons m rest ih =>
    obtain ⟨hm, hrest⟩ := List.forall_mem_cons.1 h
    have hcons : entriesOf (m :: rest) ++ es =
        ⟨pure (.name m.1), .unknown, m.2⟩ :: (entriesOf rest ++ es) := rfl
    have hcontent : JsonValue.dialect.content m.2 = .ok m.2.toValue := rfl
    have hok : ∀ f : Value → Read (RuleMetadata × List (String × Value)),
        (Except.ok m.2.toValue >>= f) = f m.2.toValue := fun _ => rfl
    rw [hcons, collect_cons Rule.sees_json.direct rfl, if_neg hm, hcontent, hok, ih hrest]
    simp

theorem collect_written (m : RuleMetadata) {ms : List (String × Json)}
    (h : ∀ m ∈ ms, m.1 ≠ metadataKey) :
    collect JsonValue.dialect none [] (entriesOf (Json.insertMember metadataKey m.toJson.sorted ms)) =
      .ok (m, ms.map fun m => (m.1, m.2.toValue)) := by
  obtain ⟨before, after, rfl, hinsert⟩ := Json.exists_insertMember_eq h m.toJson.sorted
  obtain ⟨hbefore, hafter⟩ := List.forall_mem_append.1 h
  have hentries : entriesOf (before ++ (metadataKey, m.toJson.sorted) :: after) =
      entriesOf before ++ ⟨pure (.name metadataKey), .unknown, m.toJson.sorted⟩ :: entriesOf after := by
    simp [entriesOf]
  rw [hinsert, hentries, collect_append hbefore, collect_cons Rule.sees_json.direct rfl, if_pos rfl]
  have hok : ∀ f : RuleMetadata → Read (RuleMetadata × List (String × Value)),
      (Except.ok m >>= f) = f m := fun _ => rfl
  rw [metadata_written, ← List.append_nil (entriesOf after), hok]
  simp only [Option.isSome_none, Bool.false_eq_true, if_false, collect_append hafter]
  simp [collect, pure, Except.pure]

theorem ruleOfContent_memory {r : Rule} (h : r.held = true) :
    ruleOfContent .json (r.memory.map fun m => (m.1, m.2.toValue)) = .ok r := by
  have hknown : (r.memory.map fun m => (m.1, m.2.toValue)).filter (fun e =>
      (Rule.schema (Content.dialect .json)).fields.any (·.named e.1)) =
        r.memory.map fun m => (m.1, m.2.toValue) := by
    rw [List.filter_eq_self]
    intro e he
    obtain ⟨m, hm, rfl⟩ := List.mem_map.1 he
    exact Rule.named_memory (Content.dialect .json) r m hm
  rw [ruleOfContent, hknown]
  exact Rule.readNamed_memory Rule.sees_content h

theorem read_written {p : PolicyRule} (h : p.rule.held = true) :
    read JsonValue.dialect p.toJson.sorted = .ok p := by
  rw [sorted_toJson]
  -- a variable for the members, so that no reader is run on them
  generalize hmembers : Json.insertMember metadataKey p.metadata.toJson.sorted p.rule.memory = members
  have hcollect := collect_written p.metadata (ne_metadataKey_of_mem_memory (r := p.rule))
  have hrule := ruleOfContent_memory h
  have hrecord : JsonValue.dialect.record title (.obj members) = .ok (.named (entriesOf members)) := rfl
  rw [hmembers] at hcollect
  rw [read, Read.bind_eq_ok]
  exact ⟨_, hrecord, Read.bind_eq_ok.2 ⟨_, hcollect, Read.bind_eq_ok.2 ⟨_, hrule, rfl⟩⟩⟩

end PolicyRule

/-- Whatever is written as a JSON value in memory is read back as it was, documents of any form that
differ in the spelling of composites only are read as the same conditions, and a written composite
is spelled as one. -/
theorem written_forms_read_back :
    (∀ c : Condition, c.held = true → Condition.read JsonValue.dialect c.toJson.sorted = .ok c) ∧
    (∀ r : Rule, r.held = true → Rule.read JsonValue.dialect r.toJson.sorted = .ok r) ∧
    (∀ s : RuleSet, s.held = true → RuleSet.ofJson s.toJson.sorted = .ok s) ∧
    (∀ p : PolicyRule, p.rule.held = true → PolicyRule.read JsonValue.dialect p.toJson.sorted = .ok p) ∧
    (∀ {ν μ : Type} {d : Dialect ν} {d' : Dialect μ} {p : ν} {q : μ} {v w : Value},
      Condition.Shown d p v → Condition.Shown d' q w → Condition.Respelled v w →
      ∀ c, Condition.read d p = .ok c ↔ Condition.read d' q = .ok c) ∧
    (∀ c : Condition, Condition.typesIn c.toJson = (c.preorder 0).map fun node => node.2.kind) :=
  ⟨fun _ => Condition.read_written, fun _ => Rule.read_written, fun _ => RuleSet.ofJson_written,
    fun _ => PolicyRule.read_written, fun hp hq h _ => Condition.read_respelled hp hq h,
    Condition.typesIn_toJson 0⟩

namespace Condition

def longOutside : Value :=
  .map (textEntries [("checks", .seq [.map (textEntries [("type", .str "none_of")])]),
    ("type", .str "composite"), ("logic", .str "any_of")])

def longInside : List (String × Json) :=
  [("checks", .arr [.obj [("logic", .str "none_of"), ("type", .str "composite")]]),
    ("type", .str "any_of")]

end Condition

theorem written_forms_read_back_of_two_spellings :
    Condition.held (.jsonPathEquals "a" "b" (.obj [("c", .float ⟨0⟩), ("d", .arr [.null])])) = true ∧
    Condition.read JsonValue.dialect
      (Condition.jsonPathEquals "a" "b" (.obj [("c", .float ⟨0⟩), ("d", .arr [.null])])).toJson.sorted =
        .ok (.jsonPathEquals "a" "b" (.obj [("c", .float ⟨0⟩), ("d", .arr [.null])])) ∧
    (∀ c, Condition.read YamlValue.dialect Condition.longOutside = .ok c ↔
      Condition.read JsonValue.dialect (.obj Condition.longInside) = .ok c) := by
  have hheld : Condition.held
      (.jsonPathEquals "a" "b" (.obj [("c", .float ⟨0⟩), ("d", .arr [.null])])) = true := by decide
  have hinner : Condition.Respelled (.map (Condition.textEntries [("type", .str "none_of")]))
      (.map (Condition.textEntries [("logic", .str "none_of"), ("type", .str "composite")])) :=
    .composite (l := .noneOf) (.short rfl rfl .omitted) (.long rfl rfl rfl rfl .omitted) .nil
  have houter : Condition.Respelled Condition.longOutside (.map (Condition.textEntries
      [("checks", .seq [.map (Condition.textEntries
        [("logic", .str "none_of"), ("type", .str "composite")])]), ("type", .str "any_of")])) :=
    .composite (l := .anyOf) (.long rfl rfl rfl rfl (.given _)) (.short rfl rfl (.given _))
      (.cons hinner .nil)
  have hlong : Condition.Shown YamlValue.dialect Condition.longOutside Condition.longOutside :=
    Condition.shown_map rfl (by simp [Condition.textEntries])
  have hshort : Condition.Shown JsonValue.dialect (.obj Condition.longInside)
      (.map (Json.toEntries Condition.longInside)) := Condition.shown_obj (by simp [Condition.longInside])
  obtain ⟨hcondition, -, -, -, hspelled, -⟩ := written_forms_read_back
  exact ⟨hheld, hcondition _ hheld, hspelled hlong hshort houter⟩

end StorePolicy

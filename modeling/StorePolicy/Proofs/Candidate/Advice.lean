import StorePolicy.Candidate.Lint
import StorePolicy.Proofs.Candidate.Acceptance
import StorePolicy.Proofs.Candidate.Reading
import StorePolicy.Proofs.Merge.Ids

/-!
# Advice on accepted candidates

The advice goes by how a candidate is written: its fields are looked up under plain keys, and platform
and severity must be texts. The strict schema goes by how it is read: keys are seen through their tags,
and choices are read from content, where a mapping with one key is a choice too. So an accepted
candidate gets no advice, but for the one on its id, exactly if it is written plainly.
-/
namespace StorePolicy

open Schema YamlValue

theorem mem_named_of_lookupKey {name : String} {es : List (Value × Value)} {v : Value}
    (h : lookupKey name es = some v) : (name, v) ∈ Value.named es := by
  obtain ⟨e, he, rfl⟩ := List.mem_map.1 (mem_under_of_lookupKey h)
  obtain ⟨he, hkey⟩ := List.mem_filter.1 he
  refine List.mem_map.2 ⟨e, he, ?_⟩
  rw [beq_iff_eq.1 hkey, Option.getD_some]

namespace Candidate

variable {es : List (Value × Value)} {v : Value} {known : List String}

/-- The required fields stand under plain keys, and choices that do are texts. -/
structure PlainlyWritten (es : List (Value × Value)) : Prop where
  required : ∀ f ∈ requiredFields, (lookupKey f es).isSome
  severity : ∀ v, lookupKey "severity" es = some v → v.isText = true
  platform : ∀ v, lookupKey "platform" es = some v → v.isText = true

def idFormatAdvice (id : String) : List String :=
  if '_' ∈ id.toList then []
  else ["Invalid ID format: " ++ id ++ ". Expected: PLATFORM_CATEGORY_XXX"]

theorem idAdvice_str (id : String) : idAdvice (.str id) = idFormatAdvice id := by
  have hsplit : isSplitId (.str id) = true ↔ '_' ∈ id.toList := List.contains_iff_mem
  rw [idAdvice, idFormatAdvice]
  by_cases h : '_' ∈ id.toList
  · rw [if_pos h, if_pos (hsplit.2 h)]
  · rw [if_neg h, if_neg fun hid => h (hsplit.1 hid)]
    rfl

theorem not_mem_idFormatAdvice (id : String) : "Missing required field: id" ∉ idFormatAdvice id := by
  intro h
  rw [idFormatAdvice] at h
  split at h
  · cases h
  · have hhead := congrArg (fun m => m.toList.head?) (List.mem_singleton.1 h)
    simp [String.toList_append] at hhead

theorem hasTextIn_of_choice {α : Type} {f : String → α} {a : α}
    (h : (Content.choice known v).map f = .ok a) : hasTextIn known v = v.isText := by
  obtain ⟨name, hname, -⟩ := Read.map_eq_ok.1 h
  cases v with
  | str t =>
    change (if known.contains t then _ else _) = _ at hname
    split at hname
    · next ht => simpa [hasTextIn, Value.asText?, Value.isText] using ht
    · cases hname
  | tagged t v => cases hname
  | _ => rfl

theorem missing_eq_nil_iff : missing es = [] ↔ ∀ f ∈ requiredFields, (lookupKey f es).isSome := by
  simp [missing, Option.isSome_iff_ne_none]

theorem onField_eq_nil_iff {key : String} {advice : Value → List String} :
    onField es key advice = [] ↔ ∀ v, lookupKey key es = some v → advice v = [] := by
  cases h : lookupKey key es <;> simp [onField, h]

end Candidate

namespace PolicyRule

open Candidate

variable {s : Check.Settings} {r : PolicyRule} {v w : Value} {es : List (Value × Value)}

/-- What the advice finds in a candidate that is read: the id of the rule, choices that are known, and a
list of conditions. -/
structure FoundAsRead (es : List (Value × Value)) (r : PolicyRule) : Prop where
  id : ∀ w, lookupKey "id" es = some w → w = .str r.rule.id
  severity : ∀ w, lookupKey "severity" es = some w → (severityAdvice w = [] ↔ w.isText = true)
  platform : ∀ w, lookupKey "platform" es = some w → (platformAdvice w = [] ↔ w.isText = true)
  conditions : ∀ w, lookupKey "conditions" es = some w → conditionsAdvice w = []

theorem exists_foundAsRead (h : ofYaml v = .ok r) :
    ∃ es, v.entries? = some es ∧ FoundAsRead es r := by
  obtain ⟨es, draft, hes, hkeys, -, hfill, hmissing, hbuild⟩ := exists_fill_of_ofYaml h
  refine ⟨es, hes, ?_, ?_, ?_, ?_⟩
  · intro w hw
    obtain ⟨u, hu, htext⟩ := Merge.exists_id_of_fill hfill hmissing
    rw [valuesOf_named hkeys] at hu
    have hmem := mem_under_of_lookupKey hw
    rw [hu, List.mem_singleton] at hmem
    subst hmem
    rw [hbuild] at htext
    cases w with
    | str t => exact congrArg Value.str (Except.ok.inj htext)
    | _ => cases htext
  · intro w hw
    obtain ⟨a, ha⟩ := exists_read_of_mem rfl (mem_named_of_lookupKey hw) hfill
    simp [severityAdvice, hasTextIn_of_choice ha]
  · intro w hw
    obtain ⟨a, ha⟩ := exists_read_of_mem rfl (mem_named_of_lookupKey hw) hfill
    simp [platformAdvice, hasTextIn_of_choice ha]
  · intro w hw
    obtain ⟨a, ha⟩ := exists_read_of_mem rfl (mem_named_of_lookupKey hw) hfill
    rw [(Content.direct .yaml).list_eq, Read.bind_eq_ok] at ha
    obtain ⟨ws, hws, -⟩ := ha
    cases w with
    | seq us => rfl
    | _ => cases hws

theorem FoundAsRead.plainlyWritten_iff (h : FoundAsRead es r) :
    PlainlyWritten es ↔ missing es = [] ∧ onField es "severity" severityAdvice = [] ∧
      onField es "platform" platformAdvice = [] := by
  rw [missing_eq_nil_iff, onField_eq_nil_iff, onField_eq_nil_iff]
  constructor
  · intro hplain
    exact ⟨hplain.required, fun w hw => (h.severity w hw).2 (hplain.severity w hw),
      fun w hw => (h.platform w hw).2 (hplain.platform w hw)⟩
  · intro hnone
    obtain ⟨hrequired, hseverity, hplatform⟩ := hnone
    exact ⟨hrequired, fun w hw => (h.severity w hw).1 (hseverity w hw),
      fun w hw => (h.platform w hw).1 (hplatform w hw)⟩

theorem FoundAsRead.onField_id (h : FoundAsRead es r) (hid : lookupKey "id" es = some w) :
    onField es "id" idAdvice = idFormatAdvice r.rule.id := by
  rw [onField, hid, h.id w hid]
  exact idAdvice_str r.rule.id

/-- An accepted candidate is a mapping whose conditions are a list, and beside the advice on the
format of its id it gets none exactly if it is written plainly. -/
theorem lint_of_parse_iff (h : parse s v = .ok r) :
    ∃ es, v.entries? = some es ∧ onField es "conditions" conditionsAdvice = [] ∧
      (lint v = idFormatAdvice r.rule.id ↔ PlainlyWritten es) := by
  obtain ⟨es, hes, hfound⟩ := exists_foundAsRead (parse_eq_ok_iff.1 h).1
  have hconditions := onField_eq_nil_iff.2 hfound.conditions
  have hlint : lint v = missing es ++ onField es "id" idAdvice ++
      onField es "severity" severityAdvice ++ onField es "platform" platformAdvice := by
    rw [lint, hes]
    simp only [hconditions, List.append_nil]
  refine ⟨es, hes, hconditions, ?_⟩
  rw [hfound.plainlyWritten_iff, hlint]
  cases hid : lookupKey "id" es with
  | some w =>
    rw [hfound.onField_id hid]
    constructor
    · intro heq
      -- the advice on the id is there, so nothing fits in beside it
      have hlength := congrArg List.length heq
      simp only [List.length_append] at hlength
      refine ⟨?_, ?_, ?_⟩ <;> exact List.length_eq_zero_iff.1 (by omega)
    · intro hnone
      rw [hnone.1, hnone.2.1, hnone.2.2, List.nil_append, List.append_nil, List.append_nil]
  | none =>
    have hmissing : "Missing required field: id" ∈ missing es :=
      List.mem_map.2 ⟨"id", by simp [requiredFields, hid], rfl⟩
    constructor
    · intro heq
      refine absurd ?_ (not_mem_idFormatAdvice r.rule.id)
      rw [← heq]
      simp [hmissing]
    · intro hnone
      rw [hnone.1] at hmissing
      cases hmissing

theorem lint_of_parse_of_plain_candidate :
    let condition : Value := .map [(.str "type", .str "file_exists"), (.str "target", .str "a.txt")]
    let metadata : Value := .map [(.str "source_url", .str "u"), (.str "quote", .str "q"),
      (.str "ai_reasoning", .str "r")]
    let entries : List (Value × Value) := [(.str "id", .str "NEW1"), (.str "platform", .str "ios"),
      (.str "title", .str "t"), (.str "description", .str "d"), (.str "severity", .str "minor"),
      (.str "category", .str "c"), (.str "conditions", .seq [condition]), (.str "metadata", metadata)]
    let rule := (((((Rule.new "NEW1" "t").withPlatform .ios).withDescription "d").withSeverity
      .minor).withCategory "c").withCondition (.fileExists "a.txt")
    parse .usual (.map entries) = .ok ⟨rule, "u", "q", "r"⟩ ∧ PlainlyWritten entries ∧
      lint (.map entries) = idFormatAdvice "NEW1" := by
  intro condition metadata entries rule
  have hparse : parse .usual (.map entries) = .ok ⟨rule, "u", "q", "r"⟩ := rfl
  have hplain : PlainlyWritten entries := by
    refine ⟨by decide, ?_, ?_⟩
    · rintro _ ⟨⟩
      rfl
    · rintro _ ⟨⟩
      rfl
  obtain ⟨es, hes, -, hadvice⟩ := lint_of_parse_iff hparse
  obtain rfl : entries = es := Option.some_inj.1 hes
  exact ⟨hparse, hplain, hadvice.2 hplain⟩

/-- The strict schema accepts a platform that is written as a mapping, and the advice does not. -/
theorem lint_of_parse_of_platform_mapping :
    let condition : Value := .map [(.str "type", .str "file_exists"), (.str "target", .str "a.txt")]
    let metadata : Value := .map [(.str "source_url", .str "u"), (.str "quote", .str "q"),
      (.str "ai_reasoning", .str "r")]
    let candidate : Value := .map [(.str "id", .str "NEW_1"),
      (.str "platform", .map [(.str "ios", .null)]), (.str "title", .str "t"),
      (.str "description", .str "d"), (.str "category", .str "c"),
      (.str "conditions", .seq [condition]), (.str "metadata", metadata)]
    (∃ r, parse .usual candidate = .ok r) ∧
      lint candidate = ["Invalid platform: ios: null. Must be one of ios, android, both"] := by
  intro condition metadata candidate
  exact ⟨⟨_, rfl⟩, by rfl⟩

end PolicyRule
end StorePolicy

import StorePolicy.Proofs.Decode.Record
import StorePolicy.Proofs.Value

/-!
# How values in memory are read

A value in memory is read through its tags. A mapping is a record if all its keys are texts, and
then its fields are filled from the values under the names that the keys spell.
-/
namespace StorePolicy

namespace YamlValue

open Value Schema

theorem untagged_of_untaggedAll {v : Value} (h : untaggedAll v = true) : v.untagged = v := by
  cases v <;> simp_all [untagged, untaggedAll]

theorem untaggedAll_of_mem_items {vs : List Value} (h : untaggedItems vs = true) :
    ∀ v ∈ vs, untaggedAll v = true := by
  induction vs with
  | nil => simp
  | cons v vs ih =>
    obtain ⟨hv, hvs⟩ := Bool.and_eq_true_iff.1 h
    intro w hw
    rcases List.mem_cons.1 hw with rfl | hw
    · exact hv
    · exact ih hvs w hw

def entryOf (e : Value × Value) : Entry Value := ⟨label "field identifier" e.1, .unknown, e.2⟩

theorem label_eq_ok_iff {expected : String} {k : Value} {l : Label} :
    label expected k = .ok l ↔ ∃ s, k.asText? = some s ∧ l = .name s := by
  simp only [asText?_eq_some_iff, label]
  cases k.untagged with
  | str s => simp [pure, Except.pure, eq_comm]
  | _ => simp [mismatch, fail]

theorem map_entryOf {es : List (Value × Value)} (h : ∀ e ∈ es, e.1.asText?.isSome) :
    es.map entryOf = entriesOf (named es) := by
  simp only [entriesOf, named, List.map_map]
  apply List.map_congr_left
  intro e he
  obtain ⟨s, hs⟩ := Option.isSome_iff_exists.1 (h e he)
  have hl : label "field identifier" e.1 = .ok (.name s) := label_eq_ok_iff.2 ⟨s, hs, rfl⟩
  simp only [entryOf, Function.comp_apply, hl, hs, Option.getD_some]
  rfl

theorem fill_entryOf_eq_ok_iff {δ : Type} {fields : List (Field Value δ)}
    {es : List (Value × Value)} {draft draft' : δ} :
    fill dialect fields (es.map entryOf) draft = .ok draft' ↔
      (∀ e ∈ es, e.1.asText?.isSome) ∧
        (named es).foldlM (take dialect fields) draft = .ok draft' := by
  constructor
  · intro h
    have hkeys : ∀ e ∈ es, e.1.asText?.isSome := by
      intro e he
      obtain ⟨l, hl⟩ := label_of_fill h (entryOf e) (List.mem_map_of_mem he)
      obtain ⟨s, hs, -⟩ := label_eq_ok_iff.1 hl
      simp [hs]
    rw [map_entryOf hkeys, fill_entriesOf direct] at h
    exact ⟨hkeys, h⟩
  · intro h
    obtain ⟨hkeys, h⟩ := h
    rw [map_entryOf hkeys, fill_entriesOf direct]
    exact h

theorem text_eq_ok_iff {v : Value} {s : String} : text v = .ok s ↔ v.asText? = some s := by
  rw [asText?_eq_some_iff, text]
  cases v.untagged with
  | str t => simp [pure, Except.pure]
  | _ => simp [mismatch, fail]

theorem items_eq_ok_iff {v : Value} {vs : List Value} :
    items v = .ok vs ↔ (v.isNull = true ∧ vs = []) ∨ v.items? = some vs := by
  rw [isNull_iff_untagged, items?_eq_some_iff, items]
  cases v.untagged with
  | null => simp [pure, Except.pure, eq_comm]
  | seq us => simp [pure, Except.pure]
  | _ => simp [mismatch, fail]

theorem list_eq_ok_iff {α : Type} {read : Value → Read α} {v : Value} {as : List α} :
    dialect.list read v = .ok as ↔
      ∃ vs, items v = .ok vs ∧ List.Forall₂ (fun v a => read v = .ok a) vs as := by
  rw [direct.list_eq, Read.bind_eq_ok]
  simp only [Read.mapM_eq_ok_iff]
  rfl

/-- The values under the keys that spell a name, with or without tags. -/
def under (name : String) (es : List (Value × Value)) : List Value :=
  (es.filter fun e => e.1.asText? == some name).map Prod.snd

theorem valuesOf_named {es : List (Value × Value)} (h : ∀ e ∈ es, e.1.asText?.isSome)
    (name : String) : valuesOf (name == ·) (Value.named es) = under name es := by
  rw [valuesOf, named, under, List.filter_map, List.map_map]
  congr 1
  apply List.filter_congr
  intro e he
  obtain ⟨s, hs⟩ := Option.isSome_iff_exists.1 (h e he)
  simp [hs, BEq.comm]

theorem mem_under_of_lookupKey {name : String} {es : List (Value × Value)} {v : Value}
    (h : lookupKey name es = some v) : v ∈ under name es := by
  induction es with
  | nil => cases h
  | cons e rest ih =>
    rw [lookupKey_cons] at h
    split at h
    · next he =>
      obtain rfl := Option.some_inj.1 h
      simp [under, isKey_iff.1 he, asText?]
    · have hv := ih h
      simp only [under, List.mem_map, List.mem_filter, List.mem_cons] at hv ⊢
      obtain ⟨e', ⟨hmem, hkey⟩, rfl⟩ := hv
      exact ⟨e', ⟨Or.inr hmem, hkey⟩, rfl⟩

def recordEntries? (v : Value) : Option (List (Value × Value)) :=
  if v.isNull then some [] else v.entries?

theorem recordEntries?_of_entries? {v : Value} {es : List (Value × Value)}
    (h : v.entries? = some es) : recordEntries? v = some es := by
  rw [recordEntries?, Value.isNull_of_entries? h, if_neg Bool.false_ne_true, h]

theorem record_eq_ok_iff {title : String} {v : Value} {fs : Fields Value} :
    record title v = .ok fs ↔ ∃ es, recordEntries? v = some es ∧ fs = .named (es.map entryOf) := by
  have hnull : v.isNull = true ↔ v.untagged = .null := isNull_iff_untagged
  have hmap : ∀ es, v.entries? = some es ↔ v.untagged = .map es := fun _ => entries?_eq_some_iff
  simp only [record, recordEntries?]
  cases hu : v.untagged with
  | null =>
    rw [if_pos (hnull.2 hu)]
    simp [pure, Except.pure, eq_comm]
  | map es =>
    rw [if_neg (by rw [hnull, hu]; simp), (hmap es).2 hu]
    simp only [Option.some_inj, exists_eq_left', pure, Except.pure, Except.ok.injEq, eq_comm]
    rfl
  | _ =>
    have hnone : v.entries? = none := by
      rw [Option.eq_none_iff_forall_ne_some]
      intro es hes
      rw [hmap, hu] at hes
      cases hes
    rw [if_neg (by rw [hnull, hu]; simp), hnone]
    simp [mismatch, fail]

/-- A value is read as a record exactly if it has entries whose keys are texts, the fields are
filled from the values under these names, and none that is required is missing. -/
theorem read_eq_ok_iff {δ α : Type} {s : Schema Value δ α} {v : Value} {a : α} :
    s.read dialect v = .ok a ↔ ∃ es draft, recordEntries? v = some es ∧
      (∀ e ∈ es, e.1.asText?.isSome) ∧
      (named es).foldlM (take dialect s.fields) s.start = .ok draft ∧
      missing? s.fields draft = none ∧ s.build draft = a := by
  rw [Schema.read, Read.bind_eq_ok]
  constructor
  · intro h
    obtain ⟨fs, hfs, h⟩ := h
    obtain ⟨es, hes, rfl⟩ := record_eq_ok_iff.1 hfs
    simp only [readNamed, Read.bind_eq_ok, fill_entryOf_eq_ok_iff, finish_eq_ok_iff] at h
    obtain ⟨draft, ⟨hkeys, hfill⟩, hmissing, hbuild⟩ := h
    exact ⟨es, draft, hes, hkeys, hfill, hmissing, hbuild⟩
  · intro h
    obtain ⟨es, draft, hes, hkeys, hfill, hmissing, hbuild⟩ := h
    refine ⟨_, record_eq_ok_iff.2 ⟨es, hes, rfl⟩, ?_⟩
    simp only [readNamed, Read.bind_eq_ok, fill_entryOf_eq_ok_iff, finish_eq_ok_iff]
    exact ⟨draft, ⟨hkeys, hfill⟩, hmissing, hbuild⟩

end YamlValue
end StorePolicy

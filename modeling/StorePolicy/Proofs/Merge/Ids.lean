import Mathlib.Data.List.Nodup
import StorePolicy.Proofs.Merge.ClosedForm
import StorePolicy.Proofs.RuleSet.Reading

/-!
# Ids after a merge

A merge goes by ids without surrounding blanks, but repetitions are found by ids as they are
written. So a merge makes a repetition where two entries give way to one candidate, and
where an entry whose id it does not see has the written id of a candidate, and nowhere else.
-/
namespace StorePolicy.Merge

open Schema YamlValue

def idField? (v : Value) : Option String := (v.get? "id").bind Value.asText?

theorem idOf?_eq_some_iff {v : Value} {id : String} :
    idOf? v = some id ↔ ∃ s, idField? v = some s ∧ Text.blank s = false ∧ id = Text.trimmed s := by
  have hseen : idOf? v = (idField? v).bind fun s =>
      if Text.blank s then none else some (Text.trimmed s) := rfl
  rw [hseen, Option.bind_eq_some_iff]
  refine exists_congr fun s => and_congr_right fun _ => ?_
  cases Text.blank s <;> simp [eq_comm]

def writtenId? (v : Value) : Option String :=
  match Rule.read dialect v with
  | .ok r => some r.id
  | .error _ => none

def idField {ν : Type} (d : Dialect ν) : Field ν Rule.Draft :=
  .of "id" true (·.id) (fun r s => { r with id := some s }) d.text

theorem sees_id {ν : Type} (d : Dialect ν) : Sees (Rule.fields d) (idField d) (·.id) d.text := by
  refine ⟨?_, fun _ => rfl, ?_, ?_⟩
  · intro s hs
    obtain rfl : "id" = s := by simpa [idField, Field.of, Field.named] using hs
    rfl
  · intro draft v draft' h
    obtain ⟨s, hs, rfl⟩ := Read.map_eq_ok.1 h
    exact ⟨s, hs, rfl⟩
  · intro s g hs hg draft v draft' h
    have hfind : (Rule.fields d).find? (·.named s) = some g := hg
    have hmem : g ∈ Rule.fields d := List.mem_of_find?_eq_some hfind
    have hname : g.named s = true := by
      rw [List.find?_eq_some_iff_append] at hfind
      exact hfind.1
    have hid : g ≠ idField d := by
      intro heq
      subst heq
      rw [hs] at hname
      cases hname
    rcases List.mem_cons.1 hmem with rfl | hmem
    · exact absurd rfl hid
    simp only [List.mem_cons, List.not_mem_nil, or_false] at hmem
    rcases hmem with rfl | rfl | rfl | rfl | rfl | rfl | rfl | rfl | rfl <;>
    · obtain ⟨a, -, rfl⟩ := Read.map_eq_ok.1 h
      rfl

theorem exists_id_of_fill {ν : Type} {d d' : Dialect ν} {ps : List (String × ν)} {draft : Rule.Draft}
    (hfill : ps.foldlM (take d' (Rule.fields d)) .empty = .ok draft)
    (hmissing : missing? (Rule.fields d) draft = none) :
    ∃ w, valuesOf ("id" == ·) ps = [w] ∧ d.text w = .ok ((Rule.schema d).build draft).id := by
  have hnamed : (idField d).named = ("id" == ·) := by
    funext s
    simp [idField, Field.of, Field.named]
  have hslot := (sees_id d).slot_fill hfill
  rw [hnamed] at hslot
  have hset : draft.id.isSome :=
    missing?_eq_none_iff.1 hmissing (idField d) List.mem_cons_self rfl
  cases hid : draft.id with
  | none => simp [hid] at hset
  | some a =>
    rw [hid] at hslot
    have hbuild : ((Rule.schema d).build draft).id = a := by simp [Rule.schema, Rule.build, hid]
    generalize hu : valuesOf ("id" == ·) ps = vs at hslot
    cases hslot with
    | filled ha => exact ⟨_, rfl, hbuild ▸ ha⟩

theorem under_id_of_read {v : Value} {r : Rule} (h : Rule.read dialect v = .ok r) :
    ∃ es w, recordEntries? v = some es ∧ under "id" es = [w] ∧ w.asText? = some r.id := by
  obtain ⟨es, draft, hes, hkeys, hfill, hmissing, rfl⟩ := read_eq_ok_iff.1 h
  obtain ⟨w, hw, htext⟩ := exists_id_of_fill hfill hmissing
  rw [valuesOf_named hkeys] at hw
  exact ⟨es, w, hes, hw, text_eq_ok_iff.1 htext⟩

theorem eq_of_under {v w : Value} {es : List (Value × Value)} {written s : String}
    (hes : recordEntries? v = some es) (hunder : under "id" es = [w])
    (hw : w.asText? = some written) (hs : idField? v = some s) : s = written := by
  simp only [idField?, Value.get?, Option.bind_eq_some_iff] at hs
  obtain ⟨u, ⟨es', hes', hu⟩, hs⟩ := hs
  obtain rfl : es' = es := Option.some_inj.1 ((recordEntries?_of_entries? hes').symm.trans hes)
  have hmem := mem_under_of_lookupKey hu
  rw [hunder, List.mem_singleton] at hmem
  rw [hmem, hw] at hs
  exact (Option.some_inj.1 hs).symm

theorem eq_of_writtenId? {v : Value} {written s : String} (h : writtenId? v = some written)
    (hs : idField? v = some s) : s = written := by
  unfold writtenId? at h
  split at h
  · next r hr =>
    obtain rfl := Option.some_inj.1 h
    obtain ⟨es, w, hes, hunder, hw⟩ := under_id_of_read hr
    exact eq_of_under hes hunder hw hs
  · cases h

theorem eq_trimmed_of_idOf? {v : Value} {written id : String} (h : writtenId? v = some written)
    (hid : idOf? v = some id) : id = Text.trimmed written := by
  obtain ⟨s, hs, -, rfl⟩ := idOf?_eq_some_iff.1 hid
  rw [eq_of_writtenId? h hs]

theorem nodup_eraseDups (ids : List String) : ids.eraseDups.Nodup := by
  match ids with
  | [] => simp
  | id :: rest =>
    rw [List.eraseDups_cons, List.nodup_cons]
    refine ⟨?_, nodup_eraseDups _⟩
    simp [List.mem_eraseDups]
termination_by ids.length
decreasing_by
  exact Nat.lt_succ_of_le (List.length_filter_le _ _)

section Written

variable {accs : List (String × Value)} {old : List Value}

def successor (accs : List (String × Value)) (v : Value) : Value :=
  ((idOf? v).bind fun id => latest? id accs).getD v

theorem successor_of_latest? {v c : Value} {id : String} (hv : idOf? v = some id)
    (hc : latest? id accs = some c) : successor accs v = c := by
  simp [successor, hv, hc]

theorem successor_of_none {v : Value} (hv : idOf? v = none) : successor accs v = v := by
  simp [successor, hv]

theorem successor_cases (accs : List (String × Value)) (v : Value) :
    (∃ id c, idOf? v = some id ∧ latest? id accs = some c ∧ successor accs v = c) ∨
      ((∀ id, idOf? v = some id → latest? id accs = none) ∧ successor accs v = v) := by
  cases hv : idOf? v with
  | none => exact Or.inr ⟨by simp, successor_of_none hv⟩
  | some id =>
    cases hc : latest? id accs with
    | none => exact Or.inr ⟨by simp [hc], by simp [successor, hv, hc]⟩
    | some c => exact Or.inl ⟨id, c, rfl, hc, successor_of_latest? hv hc⟩

def Listed (accs : List (String × Value)) : Prop :=
  ∀ id c, latest? id accs = some c → idOf? c = some id

theorem Listed.idOf?_successor (haccs : Listed accs) (v : Value) :
    idOf? (successor accs v) = idOf? v := by
  rcases successor_cases accs v with ⟨id, c, hv, hc, hs⟩ | ⟨-, hs⟩
  · rw [hs, hv, haccs id c hc]
  · rw [hs]

theorem writtenId?_ne {v w : Value} {id k : String} (hv : idOf? v = some id)
    (hw : idOf? w = some k) (hne : id ≠ k) (hread : (writtenId? v).isSome) :
    writtenId? v ≠ writtenId? w := by
  intro heq
  obtain ⟨written, hwritten⟩ := Option.isSome_iff_exists.1 hread
  have h1 := eq_trimmed_of_idOf? hwritten hv
  have h2 := eq_trimmed_of_idOf? (heq ▸ hwritten) hw
  exact hne (h1.trans h2.symm)

/-- No two entries give way to one candidate. -/
def Apart (accs : List (String × Value)) (old : List Value) : Prop :=
  old.Pairwise fun v w => ∀ id c, idOf? v = some id → latest? id accs = some c →
    idOf? w ≠ some id

def Unseen (accs : List (String × Value)) (old : List Value) : Prop :=
  ∀ v ∈ old, idOf? v = none → ∀ id c, latest? id accs = some c → writtenId? v ≠ writtenId? c

theorem mem_mergedRules_iff {u : Value} : u ∈ mergedRules accs old ↔
    (∃ v ∈ old, successor accs v = u) ∨ ∃ id ∈ newIds accs old, latest? id accs = some u := by
  rw [mergedRules, List.mem_append, List.mem_filterMap, replaced, List.mem_map]
  rfl

theorem mem_mergedRules_of_latest? {id : String} {c : Value} (h : latest? id accs = some c) :
    c ∈ mergedRules accs old := by
  rw [mem_mergedRules_iff]
  cases hold : old.any (Progress.holdsId id) with
  | true =>
    obtain ⟨v, hv, hid⟩ := List.any_eq_true.1 hold
    exact Or.inl ⟨v, hv, successor_of_latest? (Progress.holdsId_iff.1 hid) h⟩
  | false =>
    refine Or.inr ⟨id, mem_newIds_iff.2 ⟨?_, hold⟩, h⟩
    exact latest?_isSome_iff.1 (by simp [h])

theorem nodup_newRules (haccs : Listed accs)
    (hread : ∀ u ∈ mergedRules accs old, (writtenId? u).isSome) :
    (((newIds accs old).filterMap fun id => latest? id accs).map writtenId?).Nodup := by
  rw [List.Nodup, List.pairwise_map, List.pairwise_filterMap]
  refine (nodup_eraseDups _).imp_of_mem ?_
  intro id k hid hk hne c hc w hw
  exact writtenId?_ne (haccs id c hc) (haccs k w hw) hne (hread c (mem_mergedRules_of_latest? hc))

theorem writtenId?_successor_ne (haccs : Listed accs) {v w : Value} (hne : writtenId? v ≠ writtenId? w)
    (hread : (writtenId? (successor accs v)).isSome)
    (hapart : ∀ id c, idOf? v = some id → latest? id accs = some c → idOf? w ≠ some id)
    (hv : idOf? v = none → ∀ id c, idOf? w = some id → latest? id accs = some c →
      writtenId? v ≠ writtenId? c)
    (hw : idOf? w = none → ∀ id c, idOf? v = some id → latest? id accs = some c →
      writtenId? w ≠ writtenId? c) :
    writtenId? (successor accs v) ≠ writtenId? (successor accs w) := by
  rcases successor_cases accs v with ⟨id, c, hid, hc, hsv⟩ | ⟨hnone, hsv⟩
  · cases hk : idOf? w with
    | none =>
      rw [hsv, successor_of_none hk]
      exact (hw hk id c hid hc).symm
    | some k =>
      have hidk : id ≠ k := fun h => hapart id c hid hc (h ▸ hk)
      refine writtenId?_ne ?_ ?_ hidk hread
      · rw [haccs.idOf?_successor, hid]
      · rw [haccs.idOf?_successor, hk]
  · rcases successor_cases accs w with ⟨k, c, hk, hc, hsw⟩ | ⟨-, hsw⟩
    · cases hid : idOf? v with
      | none =>
        rw [hsv, hsw]
        exact hv hid k c hk hc
      | some id =>
        have hidk : id ≠ k := by
          intro heq
          subst heq
          rw [hnone id hid] at hc
          cases hc
        refine writtenId?_ne ?_ ?_ hidk hread
        · rw [haccs.idOf?_successor, hid]
        · rw [haccs.idOf?_successor, hk]
    · rw [hsv, hsw]
      exact hne

theorem map_writtenId?_replaced :
    (replaced accs old).map writtenId? = old.map fun v => writtenId? (successor accs v) := by
  rw [replaced, List.map_map]
  rfl

theorem successor_mem_mergedRules {v : Value} (hv : v ∈ old) :
    successor accs v ∈ mergedRules accs old :=
  mem_mergedRules_iff.2 (Or.inl ⟨v, hv, rfl⟩)

theorem apart_of_nodup_replaced (h : ((replaced accs old).map writtenId?).Nodup) :
    Apart accs old := by
  rw [map_writtenId?_replaced, List.Nodup, List.pairwise_map] at h
  refine h.imp ?_
  intro v w hne id c hv hc hw
  rw [successor_of_latest? hv hc, successor_of_latest? hw hc] at hne
  exact hne rfl

theorem unseen_of_nodup_mergedRules (h : ((mergedRules accs old).map writtenId?).Nodup) :
    Unseen accs old := by
  rw [mergedRules, List.map_append, List.nodup_append, map_writtenId?_replaced] at h
  obtain ⟨hdistinct, -, hcross⟩ := h
  intro v hv hnone id c hc heq
  -- the candidate stands in for another old entry or at the end
  cases hany : old.any (Progress.holdsId id) with
  | true =>
    obtain ⟨w, hw, hid⟩ := List.any_eq_true.1 hany
    have hid := Progress.holdsId_iff.1 hid
    have hsame : v = w := by
      refine List.inj_on_of_nodup_map hdistinct hv hw ?_
      rw [successor_of_none hnone, successor_of_latest? hid hc]
      exact heq
    rw [← hsame, hnone] at hid
    cases hid
  | false =>
    have hnew : id ∈ newIds accs old :=
      mem_newIds_iff.2 ⟨latest?_isSome_iff.1 (by simp [hc]), hany⟩
    refine hcross (writtenId? v) (List.mem_map.2 ⟨v, hv, ?_⟩) (writtenId? c) ?_ heq
    · rw [successor_of_none hnone]
    · exact List.mem_map_of_mem (List.mem_filterMap.2 ⟨id, hnew, hc⟩)

theorem nodup_replaced (haccs : Listed accs)
    (hread : ∀ u ∈ mergedRules accs old, (writtenId? u).isSome)
    (hold : (old.map writtenId?).Nodup) (hapart : Apart accs old) (hunseen : Unseen accs old) :
    ((replaced accs old).map writtenId?).Nodup := by
  rw [map_writtenId?_replaced]
  rw [List.Nodup, List.pairwise_map] at hold ⊢
  refine (hold.and hapart).imp_of_mem ?_
  intro v w hv hw h
  obtain ⟨hne, hvw⟩ := h
  refine writtenId?_successor_ne haccs hne (hread _ (successor_mem_mergedRules hv)) hvw ?_ ?_
  · intro hnone id c _ hc
    exact hunseen v hv hnone id c hc
  · intro hnone id c _ hc
    exact hunseen w hw hnone id c hc

theorem writtenId?_successor_ne_new (haccs : Listed accs)
    (hread : ∀ u ∈ mergedRules accs old, (writtenId? u).isSome) (hunseen : Unseen accs old)
    {v c : Value} {id : String} (hv : v ∈ old) (hid : id ∈ newIds accs old)
    (hc : latest? id accs = some c) : writtenId? (successor accs v) ≠ writtenId? c := by
  obtain ⟨-, hany⟩ := mem_newIds_iff.1 hid
  cases hk : idOf? v with
  | none =>
    rw [successor_of_none hk]
    exact hunseen v hv hk id c hc
  | some k =>
    have hne := Progress.ne_of_not_holdsId (List.any_eq_false.1 hany v hv) hk
    refine writtenId?_ne ?_ (haccs id c hc) hne (hread _ (successor_mem_mergedRules hv))
    rw [haccs.idOf?_successor, hk]

/-- A merge makes no repetition exactly if no two entries give way to one candidate and no
entry whose id is not seen has the id of one. -/
theorem nodup_mergedRules_iff (haccs : Listed accs)
    (hread : ∀ u ∈ mergedRules accs old, (writtenId? u).isSome)
    (hold : (old.map writtenId?).Nodup) :
    ((mergedRules accs old).map writtenId?).Nodup ↔ Apart accs old ∧ Unseen accs old := by
  constructor
  · intro h
    refine ⟨apart_of_nodup_replaced ?_, unseen_of_nodup_mergedRules h⟩
    rw [mergedRules, List.map_append] at h
    exact h.of_append_left
  · intro h
    obtain ⟨hapart, hunseen⟩ := h
    rw [mergedRules, List.map_append, List.nodup_append]
    refine ⟨nodup_replaced haccs hread hold hapart hunseen, nodup_newRules haccs hread, ?_⟩
    rw [map_writtenId?_replaced]
    intro a ha b hb
    obtain ⟨v, hv, rfl⟩ := List.mem_map.1 ha
    obtain ⟨c, hc, rfl⟩ := List.mem_map.1 hb
    obtain ⟨id, hid, hc⟩ := List.mem_filterMap.1 hc
    exact writtenId?_successor_ne_new haccs hread hunseen hv hid hc

end Written

end StorePolicy.Merge

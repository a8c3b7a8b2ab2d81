import StorePolicy.Decode.JsonValue
import StorePolicy.Proofs.Candidate.Reading
import StorePolicy.Proofs.Json.Memory

/-!
# Conditions and content

A condition inside of another is read from content, and one at the top from a document of any form.
Both readers pick out the type and fill the fields from the rest, so a document is read as its content
is, as soon as its type is seen as it is in content.
-/
namespace StorePolicy.Condition

open Schema

variable {w : Wording} {known : List String} {c : Condition}

def partOf (v : Value) : Part := ⟨v, checksOf v⟩

theorem entryParts_eq_map (es : List (Value × Value)) :
    entryParts es = es.map fun e => (e.1, partOf e.2) := by
  induction es with
  | nil => rfl
  | cons e es ih => rw [entryParts, ih, List.map_cons, partOf]

theorem itemParts_eq_map (vs : List Value) : itemParts vs = vs.map partOf := by
  induction vs with
  | nil => rfl
  | cons v vs ih => rw [itemParts, ih, List.map_cons, partOf]

theorem variant_eq (w : Wording) (v : Value) :
    (Content.dialect w).variant known v = Content.variant known v := by
  rw [Dialect.variant, Content.variant]
  change Content.label "variant identifier" v >>= _ = Content.label "variant identifier" v >>= _
  cases Content.label "variant identifier" v with
  | error f => rfl
  | ok l =>
    cases l with
    | name s => rfl
    | index n => rfl

theorem splitKind_cons (kind : Option String) (k : Value) (p : Part) (rest es : List (Value × Part)) :
    splitKind kind rest ((k, p) :: es) =
      if isKey "type" (k, p.value) then
        if kind.isSome then fail (.duplicateField "type")
        else Content.variant kinds p.value >>= fun s => splitKind (some s) rest es
      else splitKind kind ((k, p) :: rest) es := by
  by_cases hkey : isKey "type" (k, p.value) = true
  · obtain rfl : k = .str "type" := isKey_iff.1 hkey
    rw [if_pos hkey]
    cases kind <;> rfl
  · rw [if_neg hkey, splitKind]
    intro _ hk
    exact hkey (isKey_iff.2 (congrArg Prod.fst hk))

theorem splitKind_eq_collect (w : Wording) (kind : Option String) (rest es : List (Value × Value)) :
    splitKind kind (entryParts rest) (entryParts es) =
      (collect (Content.dialect w) kind rest es).map fun x => (x.1, entryParts x.2) := by
  induction es generalizing kind rest with
  | nil =>
    cases kind with
    | none => rfl
    | some kind => simp [entryParts, splitKind, collect, entryParts_eq_map, pure, Except.pure, Except.map]
  | cons e es ih =>
    obtain ⟨k, v⟩ := e
    rw [collect_cons (Content.direct w) rfl, entryParts, splitKind_cons]
    cases hkey : isKey "type" (k, v) with
    | true =>
      rw [if_pos rfl, if_pos rfl]
      split
      · rfl
      · rw [variant_eq]
        cases Content.variant kinds v with
        | error f => rfl
        | ok s => exact ih (some s) rest
    | false => exact ih kind ((k, v) :: rest)

theorem read_map_eq (w : Wording) (es : List (Value × Value)) :
    read (Content.dialect w) (.map es) = ofContent (.map es) := by
  have hread : read (Content.dialect w) (.map es) = collect (Content.dialect w) none [] es >>=
      fun x => (schema x.1).readNamed partDialect (labelled (entryParts x.2)) := rfl
  have hof : ofContent (.map es) = splitKind none [] (entryParts es) >>=
      fun x => (schema x.1).readNamed partDialect (labelled x.2) := rfl
  have hsplit := splitKind_eq_collect w none [] es
  rw [entryParts] at hsplit
  rw [hread, hof, hsplit]
  cases collect (Content.dialect w) none [] es <;> rfl

theorem read_seq_eq (w : Wording) (vs : List Value) :
    read (Content.dialect w) (.seq vs) = ofContent (.seq vs) := by
  cases vs with
  | nil => rfl
  | cons k rest =>
    rw [read_seq (Content.direct w) rfl fun _ _ => rfl, variant_eq]
    rfl

/-- Content is read the same inside of a condition and at the top. -/
theorem read_content_eq_ok_iff (w : Wording) {v : Value} :
    read (Content.dialect w) v = .ok c ↔ ofContent v = .ok c := by
  cases v with
  | map es => rw [read_map_eq]
  | seq vs => rw [read_seq_eq]
  | _ => constructor <;> intro h <;> cases h

section Shown

variable {ν : Type} {d : Dialect ν}

def SameKind (d : Dialect ν) (p : ν) (v : Value) : Prop :=
  ∀ kind, d.variant kinds p = .ok kind ↔ Content.variant kinds v = .ok kind

structure EntryShown (d : Dialect ν) (p : ν × ν) (e : Value × Value) : Prop where
  key : d.content p.1 = .ok e.1
  kind : isKey "type" e = true → SameKind d p.2 e.2
  value : isKey "type" e = false → d.content p.2 = .ok e.2

inductive Shown (d : Dialect ν) (p : ν) : Value → Prop where
  | entries {ps : List (ν × ν)} {es : List (Value × Value)} (parts : d.parts p = .ok (.entries ps))
      (entries : List.Forall₂ (EntryShown d) ps es) : Shown d p (.map es)
  | items {k : ν} {ps : List ν} {v : Value} {vs : List Value}
      (parts : d.parts p = .ok (.items (k :: ps))) (kind : SameKind d k v)
      (items : List.Forall₂ (fun p v => d.content p = .ok v) ps vs) : Shown d p (.seq (v :: vs))

theorem within_eq_ok_iff {α : Type} {step : Step} {r : Read α} {a : α} :
    d.within step r = .ok a ↔ r = .ok a := by
  unfold Dialect.within
  split
  · cases r <;> simp [Except.mapError]
  · rfl

theorem collect_eq_ok_iff {ps : List (ν × ν)} {es : List (Value × Value)}
    (h : List.Forall₂ (EntryShown d) ps es) {kind : Option String} {rest : List (Value × Value)}
    {x : String × List (Value × Value)} :
    collect d kind rest ps = .ok x ↔ collect (Content.dialect w) kind rest es = .ok x := by
  induction h generalizing kind rest with
  | nil => cases kind <;> simp [collect, Dialect.refuse]
  | @cons p e ps es hentry _ ih =>
    obtain ⟨k, v⟩ := e
    rw [collect_entry hentry.key, collect_cons (Content.direct w) rfl]
    cases hkey : isKey "type" (k, v) with
    | true =>
      rw [if_pos rfl, if_pos rfl]
      cases kind with
      | some kind => simp [Dialect.refuse]
      | none =>
        have hkind : ∀ s, d.variant kinds p.2 = .ok s ↔ Content.variant kinds v = .ok s :=
          hentry.kind hkey
        simp only [Option.isSome_none, Bool.false_eq_true, if_false, Read.bind_eq_ok,
          within_eq_ok_iff, variant_eq, hkind, ih]
    | false =>
      simp only [Bool.false_eq_true, if_false, Read.bind_eq_ok, within_eq_ok_iff,
        hentry.value hkey, ih]
      rfl

theorem contents_eq_ok_iff {ps : List ν} {vs : List Value}
    (h : List.Forall₂ (fun p v => d.content p = .ok v) ps vs) (n : Nat) {ws : List Value} :
    ((ps.zipIdx n).mapM fun x => d.within (.item (x.2 + 1)) (d.content x.1)) = .ok ws ↔ ws = vs := by
  induction h generalizing n ws with
  | nil => simp [pure, Except.pure, eq_comm]
  | @cons p v ps vs hp _ ih =>
    simp only [List.zipIdx_cons, List.mapM_cons, Read.bind_eq_ok, within_eq_ok_iff, hp, ih]
    simp [pure, Except.pure, eq_comm]

theorem read_eq_ok_iff_of_shown {p : ν} {v : Value} (h : Shown d p v) :
    read d p = .ok c ↔ ofContent v = .ok c := by
  cases h with
  | @entries ps es hparts hentries =>
    have hread : read d p = collect d none [] ps >>=
        fun x => (schema x.1).readNamed partDialect (labelled (entryParts x.2)) := by
      rw [read, hparts]
      rfl
    have hcontent : read (Content.dialect .json) (.map es) = collect (Content.dialect .json) none [] es >>=
        fun x => (schema x.1).readNamed partDialect (labelled (entryParts x.2)) := rfl
    simp only [← read_map_eq .json, hread, hcontent, Read.bind_eq_ok, collect_eq_ok_iff (w := .json) hentries]
  | @items k ps v vs hparts hkind hitems =>
    have hread : read d p = d.within (.item 0) (d.variant kinds k) >>= fun kind =>
        (ps.zipIdx 0).mapM (fun x => d.within (.item (x.2 + 1)) (d.content x.1)) >>= fun contents =>
        (schema kind).readListed partDialect (itemParts contents) := by
      rw [read, hparts]
      rfl
    have hcontent : ofContent (.seq (v :: vs)) = Content.variant kinds v >>=
        fun kind => (schema kind).readListed partDialect (itemParts vs) := rfl
    have hkinds : ∀ s, d.variant kinds k = .ok s ↔ Content.variant kinds v = .ok s := hkind
    simp only [hread, hcontent, Read.bind_eq_ok, within_eq_ok_iff, hkinds,
      contents_eq_ok_iff hitems, exists_eq_left]

theorem shown_obj {ms : List (String × Json)} (h : ∀ m ∈ ms, m.1 = "type" → ∃ s, m.2 = .str s) :
    Shown JsonValue.dialect (.obj ms) (.map (Json.toEntries ms)) := by
  refine .entries rfl ?_
  induction ms with
  | nil => exact .nil
  | cons m rest ih =>
    obtain ⟨hm, hrest⟩ := List.forall_mem_cons.1 h
    refine .cons ⟨rfl, ?_, fun _ => rfl⟩ (ih hrest)
    intro hkey kind
    obtain ⟨s, hs⟩ := hm (Value.str.inj (isKey_iff.1 hkey))
    simp only [hs]
    exact Iff.rfl

theorem shown_map {es : List (Value × Value)} (hes : YamlValue.untaggedEntries es = true)
    (h : ∀ e ∈ es, e.1 = .str "type" → ∃ s, e.2 = .str s) :
    Shown YamlValue.dialect (.map es) (.map es) := by
  refine .entries rfl ?_
  induction es with
  | nil => exact .nil
  | cons e rest ih =>
    obtain ⟨he, hrest⟩ := List.forall_mem_cons.1 h
    simp only [YamlValue.untaggedEntries, Bool.and_eq_true] at hes
    obtain ⟨⟨hk, hv⟩, hes⟩ := hes
    refine .cons ⟨if_pos hk, ?_, fun _ => if_pos hv⟩ (ih hes hrest)
    intro hkey kind
    obtain ⟨s, hs⟩ := he (isKey_iff.1 hkey)
    simp only [hs]
    exact Iff.rfl

end Shown

end StorePolicy.Condition

import StorePolicy.Proofs.Condition.Content

/-!
# Spellings of composites

A composite may be written with its logic beside its type, or with the name of its logic for a type,
and either of these as a record or as a row of values. However the composites in a document are
spelled, each on its own, it is read as the same condition.
-/
namespace StorePolicy.Condition

open Schema

variable {c : Condition} {l : Logic} {cs : List Condition}

def textEntries (ps : List (String × Value)) : List (Value × Value) :=
  ps.map fun p => (.str p.1, p.2)

inductive ChecksWritten : List Value → List Value → Prop where
  | omitted : ChecksWritten [] []
  | given (vs : List Value) : ChecksWritten [.seq vs] vs

/-- Content that spells a composite of this logic over these documents. In a record all other entries
do no harm, and neither does the order of the entries. -/
inductive Written (l : Logic) : Value → List Value → Prop where
  | long {ps : List (String × Value)} {t g : Value} {vs : List Value}
      (type : valuesOf ("type" == ·) ps = [t]) (kind : Content.variant kinds t = .ok "composite")
      (logic : valuesOf ("logic" == ·) ps = [g]) (name : logicOf g = .ok l)
      (checks : ChecksWritten (valuesOf ("checks" == ·) ps) vs) : Written l (.map (textEntries ps)) vs
  | short {ps : List (String × Value)} {t : Value} {vs : List Value}
      (type : valuesOf ("type" == ·) ps = [t]) (kind : Content.variant kinds t = .ok l.name)
      (checks : ChecksWritten (valuesOf ("checks" == ·) ps) vs) : Written l (.map (textEntries ps)) vs
  | longRow {t g : Value} {rest vs : List Value} (kind : Content.variant kinds t = .ok "composite")
      (name : logicOf g = .ok l) (checks : ChecksWritten rest vs) : Written l (.seq (t :: g :: rest)) vs
  | shortRow {t : Value} {rest vs : List Value} (kind : Content.variant kinds t = .ok l.name)
      (checks : ChecksWritten rest vs) : Written l (.seq (t :: rest)) vs

mutual
/-- Two documents differ in the spelling of composites only. -/
inductive Respelled : Value → Value → Prop where
  | same (v : Value) : Respelled v v
  | composite {l : Logic} {v w : Value} {vs ws : List Value} (left : Written l v vs)
      (right : Written l w ws) (checks : RespelledAll vs ws) : Respelled v w

inductive RespelledAll : List Value → List Value → Prop where
  | nil : RespelledAll [] []
  | cons {v w : Value} {vs ws : List Value} (first : Respelled v w) (rest : RespelledAll vs ws) :
      RespelledAll (v :: vs) (w :: ws)
end

section Record

variable {ps : List (String × Value)} {t : Value} {kind : String}

def fieldParts (ps : List (String × Value)) : List (String × Part) :=
  (ps.filter fun p => "type" != p.1).map fun p => (p.1, partOf p.2)

theorem isKey_text (s : String) (v : Value) : isKey "type" (.str s, v) = ("type" == s) := by
  simp [isKey, BEq.comm]

theorem collect_others (h : valuesOf ("type" == ·) ps = []) (rest : List (Value × Value)) :
    collect (Content.dialect .json) (some kind) rest (textEntries ps) =
      .ok (kind, rest.reverse ++ textEntries (ps.filter fun p => "type" != p.1)) := by
  induction ps generalizing rest with
  | nil => simp [textEntries, collect, pure, Except.pure]
  | cons p ps ih =>
    have hcons : textEntries (p :: ps) = (.str p.1, p.2) :: textEntries ps := rfl
    rw [valuesOf_cons] at h
    split at h
    · cases h
    · next hp =>
      rw [hcons, collect_cons (Content.direct .json) rfl, isKey_text, if_neg hp]
      refine (ih h _).trans ?_
      simp_all [textEntries]

theorem collect_textEntries (h : valuesOf ("type" == ·) ps = [t])
    (hkind : Content.variant kinds t = .ok kind) (rest : List (Value × Value)) :
    collect (Content.dialect .json) none rest (textEntries ps) =
      .ok (kind, rest.reverse ++ textEntries (ps.filter fun p => "type" != p.1)) := by
  induction ps generalizing rest with
  | nil => cases h
  | cons p ps ih =>
    have hcons : textEntries (p :: ps) = (.str p.1, p.2) :: textEntries ps := rfl
    rw [hcons, collect_cons (Content.direct .json) rfl, isKey_text]
    rw [valuesOf_cons] at h
    split at h
    · next hp =>
      obtain ⟨rfl, hothers⟩ := List.cons.inj h
      rw [if_pos hp, variant_eq, hkind]
      refine (collect_others hothers rest).trans ?_
      simp_all
    · next hp =>
      rw [if_neg hp]
      refine (ih h _).trans ?_
      simp_all [textEntries]

theorem partDirect : partDialect.Direct := ⟨rfl, fun _ => rfl⟩

theorem labelled_textEntries (ps : List (String × Value)) :
    labelled (entryParts (textEntries ps)) = entriesOf (ps.map fun p => (p.1, partOf p.2)) := by
  simp only [labelled, entryParts_eq_map, textEntries, entriesOf, List.map_map]
  rfl

theorem ofContent_textEntries_eq_ok_iff (h : valuesOf ("type" == ·) ps = [t])
    (hkind : Content.variant kinds t = .ok kind) :
    ofContent (.map (textEntries ps)) = .ok c ↔ ∃ draft,
      (fieldParts ps).foldlM (take partDialect (schema kind).fields) (schema kind).start = .ok draft ∧
      missing? (schema kind).fields draft = none ∧ (schema kind).build draft = c := by
  have hread : ofContent (.map (textEntries ps)) =
      (schema kind).readNamed partDialect (entriesOf (fieldParts ps)) := by
    rw [← read_map_eq .json, fieldParts, ← labelled_textEntries]
    change collect _ _ _ _ >>= _ = _
    rw [collect_textEntries h hkind]
    rfl
  rw [hread, readNamed, Read.bind_eq_ok]
  simp only [fill_entriesOf partDirect, finish_eq_ok_iff]

end Record

section Composite

variable {ps : List (String × Part)} {a b : Draft}

theorem field?_logic {s : String} (h : "logic" = s) (fs : List (Field Part Draft)) :
    field? (logicField :: fs) (.name s) = some (.of "logic" true (·.logic)
      (fun d l => { d with logic := some l }) fun p => logicOf p.value) := by
  subst h
  rfl

theorem field?_checks {s : String} (h : "checks" = s) (fs : List (Field Part Draft)) :
    field? (checksField :: fs) (.name s) = some (.of "checks" false (·.checks)
      (fun d cs => { d with checks := some cs }) (·.checks)) := by
  subst h
  rfl

theorem field?_other {s : String} (hlogic : "logic" ≠ s) (fs : List (Field Part Draft)) :
    field? (logicField :: fs) (.name s) = field? fs (.name s) := by
  simp [field?, logicField, Field.of, Field.named, hlogic]

theorem fill_checks_eq_ok_iff :
    ps.foldlM (take partDialect [checksField]) a = .ok b ↔
      Slot Part.checks (valuesOf ("checks" == ·) ps) a.checks b.checks ∧
      b = { a with checks := b.checks } := by
  induction ps generalizing a with
  | nil =>
    -- drafts are equal if their fields are
    obtain ⟨target, path, value, pattern, xpath, logic, checks⟩ := a
    obtain ⟨target', path', value', pattern', xpath', logic', checks'⟩ := b
    simp [valuesOf, Slot.nil_iff, pure, Except.pure, eq_comm]
    tauto
  | cons p rest ih =>
    rw [valuesOf_cons]
    by_cases hchecks : "checks" = p.1
    · simp only [foldlM_take_of_eq_ok_iff (field?_checks hchecks []), ih, beq_iff_eq, hchecks, if_true,
        Slot.cons_iff]
      grind
    · have hnone : field? [checksField] (.name p.1) = none := by
        simp [field?, checksField, Field.of, Field.named, hchecks]
      rw [foldlM_take_unnamed hnone, ih]
      simp [hchecks]

theorem fill_composite_eq_ok_iff :
    ps.foldlM (take partDialect [logicField, checksField]) a = .ok b ↔
      Slot (fun p => logicOf p.value) (valuesOf ("logic" == ·) ps) a.logic b.logic ∧
      Slot Part.checks (valuesOf ("checks" == ·) ps) a.checks b.checks ∧
      b = { a with logic := b.logic, checks := b.checks } := by
  induction ps generalizing a with
  | nil =>
    obtain ⟨target, path, value, pattern, xpath, logic, checks⟩ := a
    obtain ⟨target', path', value', pattern', xpath', logic', checks'⟩ := b
    simp [valuesOf, Slot.nil_iff, pure, Except.pure, eq_comm]
    tauto
  | cons p rest ih =>
    rw [valuesOf_cons, valuesOf_cons]
    by_cases hlogic : "logic" = p.1
    · have hchecks : ("checks" == p.1) = false := by
        rw [← hlogic]
        rfl
      simp only [foldlM_take_of_eq_ok_iff (field?_logic hlogic [checksField]), ih, beq_iff_eq, hlogic,
        hchecks, if_true, Bool.false_eq_true, if_false, Slot.cons_iff]
      grind
    have hskip := field?_other hlogic [checksField]
    by_cases hchecks : "checks" = p.1
    · simp only [foldlM_take_of_eq_ok_iff (hskip.trans (field?_checks hchecks [])), ih, beq_iff_eq,
        hlogic, hchecks, if_true, if_false, Slot.cons_iff]
      grind
    · have hnone : field? [logicField, checksField] (.name p.1) = none := by
        rw [hskip]
        simp [field?, checksField, Field.of, Field.named, hchecks]
      rw [foldlM_take_unnamed hnone, ih]
      simp [hlogic, hchecks]

end Composite

theorem valuesOf_fieldParts {name : String} (h : name ≠ "type") (ps : List (String × Value)) :
    valuesOf (name == ·) (fieldParts ps) = (valuesOf (name == ·) ps).map partOf := by
  simp only [valuesOf, fieldParts, List.filter_map, List.filter_filter, List.map_map]
  congr 1
  apply List.filter_congr
  intro p _
  by_cases hp : name = p.1
  · subst hp
    simp [Ne.symm h]
  · simp [hp]

theorem exists_slot_checks_iff {us vs : List Value} (h : ChecksWritten us vs)
    {P : List Condition → Prop} :
    (∃ o, Slot Part.checks (us.map partOf) none o ∧ P (o.getD [])) ↔
      ∃ cs, ofContents vs = .ok cs ∧ P cs := by
  cases h with
  | omitted => simp [Slot.nil_iff, ofContents, pure, Except.pure]
  | given =>
    have hchecks : (partOf (.seq vs)).checks = ofContents vs := rfl
    simp only [List.map_cons, List.map_nil, Slot.cons_iff, Slot.nil_iff, hchecks, true_and]
    constructor
    · intro h
      obtain ⟨o, ⟨cs, hcs, rfl⟩, hP⟩ := h
      exact ⟨cs, hcs, hP⟩
    · intro h
      obtain ⟨cs, hcs, hP⟩ := h
      exact ⟨some cs, ⟨cs, hcs, rfl⟩, hP⟩

theorem ofContent_long_eq_ok_iff {ps : List (String × Value)} {t g : Value} {vs : List Value}
    (type : valuesOf ("type" == ·) ps = [t]) (kind : Content.variant kinds t = .ok "composite")
    (logic : valuesOf ("logic" == ·) ps = [g]) (name : logicOf g = .ok l)
    (checks : ChecksWritten (valuesOf ("checks" == ·) ps) vs) :
    ofContent (.map (textEntries ps)) = .ok c ↔ ∃ cs, ofContents vs = .ok cs ∧ c = .composite l cs := by
  rw [ofContent_textEntries_eq_ok_iff type kind, ← exists_slot_checks_iff checks]
  have hlogic : valuesOf ("logic" == ·) (fieldParts ps) = [partOf g] := by
    rw [valuesOf_fieldParts (by decide), logic]
    rfl
  have hslot : ∀ o, Slot (fun p => logicOf p.value) [partOf g] none o ↔ o = some l := by
    intro o
    have hname : logicOf (partOf g).value = .ok l := name
    simp [Slot.cons_iff, Slot.nil_iff, hname]
  constructor
  · intro h
    obtain ⟨draft, hfill, -, rfl⟩ := h
    obtain ⟨h1, h2, -⟩ := fill_composite_eq_ok_iff.1 hfill
    rw [hlogic] at h1
    rw [valuesOf_fieldParts (by decide)] at h2
    refine ⟨draft.checks, h2, ?_⟩
    have hdraft : draft.logic = some l := (hslot _).1 h1
    change Condition.composite (draft.logic.getD .allOf) (draft.checks.getD []) = _
    rw [hdraft]
    rfl
  · intro h
    obtain ⟨o, ho, rfl⟩ := h
    refine ⟨{ Draft.empty with logic := some l, checks := o }, ?_, rfl, rfl⟩
    refine fill_composite_eq_ok_iff.2 ⟨?_, ?_, rfl⟩
    · rw [hlogic]
      exact (hslot _).2 rfl
    · rw [valuesOf_fieldParts (by decide)]
      exact ho

theorem schema_name (l : Logic) : (schema l.name).fields = [checksField] ∧
    (schema l.name).start = .empty ∧ ∀ d, (schema l.name).build d = .composite l d.checkList := by
  cases l <;> exact ⟨rfl, rfl, fun _ => rfl⟩

theorem ofContent_short_eq_ok_iff {ps : List (String × Value)} {t : Value} {vs : List Value}
    (type : valuesOf ("type" == ·) ps = [t]) (kind : Content.variant kinds t = .ok l.name)
    (checks : ChecksWritten (valuesOf ("checks" == ·) ps) vs) :
    ofContent (.map (textEntries ps)) = .ok c ↔ ∃ cs, ofContents vs = .ok cs ∧ c = .composite l cs := by
  obtain ⟨hfields, hstart, hbuild⟩ := schema_name l
  rw [ofContent_textEntries_eq_ok_iff type kind, ← exists_slot_checks_iff checks, hfields, hstart]
  constructor
  · intro h
    obtain ⟨draft, hfill, -, rfl⟩ := h
    obtain ⟨h1, -⟩ := fill_checks_eq_ok_iff.1 hfill
    rw [valuesOf_fieldParts (by decide)] at h1
    exact ⟨draft.checks, h1, hbuild draft⟩
  · intro h
    obtain ⟨o, ho, rfl⟩ := h
    refine ⟨{ Draft.empty with checks := o }, fill_checks_eq_ok_iff.2 ⟨?_, rfl⟩, rfl, hbuild _⟩
    rw [valuesOf_fieldParts (by decide)]
    exact ho

section Row

theorem logicField_set {g : Value} (h : logicOf g = .ok l) (d : Draft) :
    logicField.set d (partOf g) = .ok { d with logic := some l } := by
  change (logicOf g).map _ = _
  rw [h]
  rfl

theorem deal_checks {us vs : List Value} (h : ChecksWritten us vs) (title : String) (i : Nat)
    {d : Draft} (hd : d.checks = none) {f : Draft → Condition} {g : List Condition → Condition}
    (hf : ∀ o, f { d with checks := o } = g (o.getD [])) :
    (deal partDialect title i [checksField] (us.map partOf) d).map f = (ofContents vs).map g := by
  cases h with
  | omitted =>
    have hcopy : d = { d with checks := none } := by rw [← hd]
    change Except.ok (f d) = Except.ok (g [])
    rw [hcopy, hf none]
    rfl
  | given =>
    change ((ofContents vs).map (fun cs => { d with checks := some cs }) >>= fun d => pure d).map f = _
    cases ofContents vs with
    | error e => rfl
    | ok cs => exact congrArg Except.ok (hf (some cs))

theorem length_le_of_checksWritten {us vs : List Value} (h : ChecksWritten us vs) : us.length ≤ 1 := by
  cases h <;> simp

theorem readListed_eq {s : Schema Part Draft Condition} {ps : List Part}
    (h : ps.length ≤ s.fields.length) (c : Condition) :
    s.readListed partDialect ps = .ok c ↔ (deal partDialect (s.title ++ " with " ++ elements s.fields.length)
      0 s.fields ps s.start).map s.build = .ok c := by
  rw [readListed]
  cases deal partDialect (s.title ++ " with " ++ elements s.fields.length) 0 s.fields ps s.start with
  | error e => simp [Except.map, bind, Except.bind]
  | ok d => simp [Except.map, bind, Except.bind, Nat.not_lt.2 h, pure, Except.pure]

theorem ofContent_seq_eq {t : Value} {kind : String} (h : Content.variant kinds t = .ok kind)
    (vs : List Value) :
    ofContent (.seq (t :: vs)) = (schema kind).readListed partDialect (vs.map partOf) := by
  have hread : ofContent (.seq (t :: vs)) = Content.variant kinds t >>= fun kind =>
      (schema kind).readListed partDialect (itemParts vs) := rfl
  rw [hread, h, itemParts_eq_map]
  rfl

theorem ofContent_longRow_eq_ok_iff {t g : Value} {us vs : List Value}
    (kind : Content.variant kinds t = .ok "composite") (name : logicOf g = .ok l)
    (checks : ChecksWritten us vs) :
    ofContent (.seq (t :: g :: us)) = .ok c ↔ ∃ cs, ofContents vs = .ok cs ∧ c = .composite l cs := by
  have hlength := length_le_of_checksWritten checks
  have hdeal : ∀ title, (deal partDialect title 0 [logicField, checksField]
      (partOf g :: us.map partOf) .empty).map (schema "composite").build =
        (ofContents vs).map (.composite l) := by
    intro title
    rw [deal, partDirect.within_eq, logicField_set name]
    exact deal_checks checks title 1 rfl fun _ => rfl
  rw [ofContent_seq_eq kind, readListed_eq, List.map_cons]
  · have hfields : (schema "composite").fields = [logicField, checksField] := rfl
    have hstart : (schema "composite").start = .empty := rfl
    rw [hfields, hstart, hdeal, Read.map_eq_ok]
    simp only [eq_comm]
  · exact Nat.succ_le_succ (by simpa using hlength)

theorem ofContent_shortRow_eq_ok_iff {t : Value} {us vs : List Value}
    (kind : Content.variant kinds t = .ok l.name) (checks : ChecksWritten us vs) :
    ofContent (.seq (t :: us)) = .ok c ↔ ∃ cs, ofContents vs = .ok cs ∧ c = .composite l cs := by
  obtain ⟨hfields, hstart, hbuild⟩ := schema_name l
  have hlength := length_le_of_checksWritten checks
  rw [ofContent_seq_eq kind, readListed_eq, hfields, hstart,
    deal_checks checks _ 0 rfl fun _ => hbuild _, Read.map_eq_ok]
  · simp only [eq_comm]
  · simpa [hfields] using hlength

end Row

theorem ofContent_written_eq_ok_iff {v : Value} {vs : List Value} (h : Written l v vs) :
    ofContent v = .ok c ↔ ∃ cs, ofContents vs = .ok cs ∧ c = .composite l cs := by
  cases h with
  | long type kind logic name checks => exact ofContent_long_eq_ok_iff type kind logic name checks
  | short type kind checks => exact ofContent_short_eq_ok_iff type kind checks
  | longRow kind name checks => exact ofContent_longRow_eq_ok_iff kind name checks
  | shortRow kind checks => exact ofContent_shortRow_eq_ok_iff kind checks

mutual
theorem Respelled.ofContent_eq_ok_iff : ∀ {v w : Value}, Respelled v w → ∀ {c : Condition},
    ofContent v = .ok c ↔ ofContent w = .ok c
  | _, _, .same _, _ => Iff.rfl
  | _, _, .composite left right checks, _ => by
    simp only [ofContent_written_eq_ok_iff left, ofContent_written_eq_ok_iff right,
      checks.ofContents_eq_ok_iff]

theorem RespelledAll.ofContents_eq_ok_iff : ∀ {vs ws : List Value}, RespelledAll vs ws →
    ∀ {cs : List Condition}, ofContents vs = .ok cs ↔ ofContents ws = .ok cs
  | _, _, .nil, _ => Iff.rfl
  | _, _, .cons first rest, _ => by
    simp only [ofContents, Read.bind_eq_ok, first.ofContent_eq_ok_iff, rest.ofContents_eq_ok_iff]
end

/-- Documents of any form are read alike if their contents differ in the spelling of composites only. -/
theorem read_respelled {ν μ : Type} {d : Dialect ν} {d' : Dialect μ} {p : ν} {q : μ} {v w : Value}
    (hp : Shown d p v) (hq : Shown d' q w) (h : Respelled v w) :
    read d p = .ok c ↔ read d' q = .ok c := by
  rw [read_eq_ok_iff_of_shown hp, read_eq_ok_iff_of_shown hq, h.ofContent_eq_ok_iff]

end StorePolicy.Condition

import StorePolicy.Candidate
import StorePolicy.Proofs.Decode.Values

/-!
# Candidates as rules

A candidate is read in two ways: with its metadata, where the fields of the rule are set aside
as content and read from there, and as an entry of a rule-set. Content admits more for a choice:
platform and severity may be mappings with one key, and the type of a condition may be
given by its place. A candidate that names its choices is read as the same rule in both ways, and
any other is no entry of a rule-set at all.
-/
namespace StorePolicy

open Schema YamlValue

namespace Content

variable {v : Value} {known : List String}

theorem choice_readsLike {s : String} (h : choice known v = .ok s) :
    ReadsLike v.isText (YamlValue.choice known v) s := by
  cases v with
  | str t => exact h
  | map es => exact fun b hb => by simp [YamlValue.choice, YamlValue.mismatch, fail] at hb
  | tagged t v => simp [choice, mismatch, fail] at h
  | _ => simp [choice, mismatch, fail] at h

theorem text_eq (h : untaggedAll v = true) : text v = YamlValue.text v := by
  rw [YamlValue.text, untagged_of_untaggedAll h]
  cases v <;> rfl

theorem flag_eq (h : untaggedAll v = true) : flag v = YamlValue.flag v := by
  rw [YamlValue.flag, untagged_of_untaggedAll h]
  cases v <;> rfl

theorem variant_readsLike {w : Wording} {s : String} (hv : untaggedAll v = true)
    (h : (dialect w).variant known v = .ok s) :
    ReadsLike v.isText (YamlValue.dialect.variant known v) s := by
  have hlabel : YamlValue.dialect.label "variant identifier" v =
      YamlValue.label "variant identifier" v := rfl
  unfold Dialect.variant at h ⊢
  rw [hlabel, YamlValue.label, untagged_of_untaggedAll hv]
  cases v with
  | str t =>
    change (if known.contains t then _ else _) = _ at h
    change (if known.contains t then _ else _) = _
    split at h
    · next ht => rw [if_pos ht]; exact h
    · cases h
  | int i =>
    intro b hb
    obtain ⟨l, hl, -⟩ := Read.bind_eq_ok.1 hb
    simp [YamlValue.mismatch, fail] at hl
  | _ =>
    obtain ⟨l, hl, -⟩ := Read.bind_eq_ok.1 h
    simp [dialect, label, mismatch, fail] at hl

end Content

namespace Condition

def typeNamed : Value → Bool
  | .map es => es.all fun e => !isKey "type" e || e.2.isText
  | .seq (k :: _) => k.isText
  | _ => true

variable {w : Wording}

theorem collect_entry {ν : Type} {d : Dialect ν} {k v : ν} {e : Value × Value}
    (hk : d.content k = .ok e.1) (kind : Option String) (rest : List (Value × Value))
    (es : List (ν × ν)) :
    collect d kind rest ((k, v) :: es) =
      if isKey "type" e then
        if kind.isSome then d.refuse (.duplicateField "type")
        else d.within (d.step k) (d.variant kinds v) >>= fun s => collect d (some s) rest es
      else d.within (d.step k) (d.content v) >>= fun value => collect d kind ((e.1, value) :: rest) es := by
  have hok : ∀ {β : Type} (f : Value → Read β), (Except.ok e.1 >>= f) = f e.1 := fun _ => rfl
  rw [collect, hk, hok]
  split
  · next htype => rw [if_pos (isKey_iff.2 htype)]
  · next hne => rw [if_neg fun hkey => hne (isKey_iff.1 hkey)]

theorem collect_cons {d : Dialect Value} (hd : d.Direct) {k v : Value} (hk : d.content k = .ok k)
    (kind : Option String) (rest es : List (Value × Value)) :
    collect d kind rest ((k, v) :: es) =
      if isKey "type" (k, v) then
        if kind.isSome then d.refuse (.duplicateField "type")
        else d.variant kinds v >>= fun s => collect d (some s) rest es
      else d.content v >>= fun value => collect d kind ((k, value) :: rest) es := by
  have hentry := @collect_entry Value d k v (k, v) hk kind rest es
  simpa only [hd.within_eq] using hentry

theorem collect_readsLike {es : List (Value × Value)} (hes : untaggedEntries es = true)
    {kind : Option String} {rest : List (Value × Value)} {x : String × List (Value × Value)}
    (h : collect (Content.dialect w) kind rest es = .ok x) :
    ReadsLike (es.all fun e => !isKey "type" e || e.2.isText)
      (collect YamlValue.dialect kind rest es) x := by
  induction es generalizing kind rest with
  | nil =>
    cases kind with
    | none => simp [collect, Dialect.refuse] at h
    | some kind => exact h
  | cons e es ih =>
    obtain ⟨k, v⟩ := e
    simp only [untaggedEntries, Bool.and_eq_true] at hes
    obtain ⟨⟨hk, hv⟩, hes⟩ := hes
    have hkey : YamlValue.dialect.content k = .ok k := by
      simp [YamlValue.dialect, content, hk, pure, Except.pure]
    have hvalue : YamlValue.dialect.content v = .ok v := by
      simp [YamlValue.dialect, content, hv, pure, Except.pure]
    rw [collect_cons (Content.direct w) rfl] at h
    rw [collect_cons direct hkey, List.all_cons]
    cases htype : isKey "type" (k, v) with
    | true =>
      rw [htype, if_pos rfl] at h
      rw [if_pos rfl]
      cases hkind : kind with
      | some kind => simp [hkind, Dialect.refuse] at h
      | none =>
        rw [hkind, if_neg (by simp), Read.bind_eq_ok] at h
        obtain ⟨s, hs, h⟩ := h
        exact (Content.variant_readsLike hv hs).bind (ih hes h)
    | false =>
      rw [htype, if_neg Bool.false_ne_true, Read.bind_eq_ok] at h
      obtain ⟨value, hval, h⟩ := h
      obtain rfl : v = value := by simpa [Content.dialect, pure, Except.pure] using hval
      rw [if_neg Bool.false_ne_true]
      have hfirst : ReadsLike true (YamlValue.dialect.content v) v := hvalue
      exact hfirst.bind (ih hes h)

theorem contents_eq {d : Dialect Value} {vs : List Value} (h : ∀ v ∈ vs, d.content v = .ok v)
    (n : Nat) : ((vs.zipIdx n).mapM fun p => d.content p.1) = .ok vs := by
  induction vs generalizing n with
  | nil => rfl
  | cons v vs ih =>
    have hvs := ih (fun w hw => h w (List.mem_cons_of_mem _ hw)) (n + 1)
    simp only [List.zipIdx_cons, List.mapM_cons, h v List.mem_cons_self, hvs]
    rfl

theorem read_seq {d : Dialect Value} (hd : d.Direct) {k : Value} {rest : List Value}
    (hparts : d.parts (.seq (k :: rest)) = .ok (.items (k :: rest)))
    (hrest : ∀ v ∈ rest, d.content v = .ok v) :
    read d (.seq (k :: rest)) =
      d.variant kinds k >>= fun kind => (schema kind).readListed partDialect (itemParts rest) := by
  have hok : ∀ {α β : Type} (a : α) (f : α → Read β), (Except.ok a >>= f) = f a := fun _ _ => rfl
  rw [read, hparts, hok]
  simp only [hd.within_eq, contents_eq hrest, hok]

theorem read_readsLike {v : Value} (hv : untaggedAll v = true) {c : Condition}
    (h : read (Content.dialect w) v = .ok c) :
    ReadsLike (typeNamed v) (read YamlValue.dialect v) c := by
  cases v with
  | map es =>
    change (collect (Content.dialect w) none [] es >>= _) = _ at h
    obtain ⟨x, hx, h⟩ := Read.bind_eq_ok.1 h
    have hcollect := collect_readsLike hv hx
    rw [← Bool.and_true (typeNamed _)]
    exact hcollect.bind h
  | seq vs =>
    cases vs with
    | nil => cases h
    | cons k rest =>
      obtain ⟨hk, hrest⟩ := Bool.and_eq_true_iff.1 hv
      have hcontents : ∀ u ∈ rest, YamlValue.dialect.content u = .ok u := by
        intro u hu
        simp [YamlValue.dialect, content, untaggedAll_of_mem_items hrest u hu, pure, Except.pure]
      rw [read_seq (Content.direct w) rfl fun _ _ => rfl, Read.bind_eq_ok] at h
      obtain ⟨kind, hkind, h⟩ := h
      rw [read_seq direct rfl hcontents, ← Bool.and_true (typeNamed _)]
      exact (Content.variant_readsLike hk hkind).bind h
  | _ => cases h

theorem list_readsLike {v : Value} (hv : untaggedAll v = true) {cs : List Condition}
    (h : (Content.dialect w).list (read (Content.dialect w)) v = .ok cs) :
    ReadsLike ((v.items?.getD []).all typeNamed)
      (YamlValue.dialect.list (read YamlValue.dialect) v) cs := by
  rw [(Content.direct w).list_eq, Read.bind_eq_ok] at h
  obtain ⟨vs, hvs, h⟩ := h
  cases v with
  | seq us =>
    obtain rfl : us = vs := by simpa [Content.dialect, Content.items, pure, Except.pure] using hvs
    rw [direct.list_eq]
    have hitems : ReadsLike true (YamlValue.dialect.items (.seq us)) us := rfl
    refine hitems.bind ?_
    refine ReadsLike.mapM ?_ h
    intro u hu c hc
    exact read_readsLike (untaggedAll_of_mem_items hv u hu) hc
  | _ => simp [Content.dialect, Content.items, Content.mismatch, fail] at hvs

end Condition

namespace Rule

def choiceNamed (name : String) (v : Value) : Bool :=
  if name = "platform" ∨ name = "severity" then v.isText
  else if name = "conditions" then (v.items?.getD []).all Condition.typeNamed
  else true

def choicesNamed (v : Value) : Bool :=
  (Value.named (v.entries?.getD [])).all fun p => choiceNamed p.1 p.2

theorem agrees_of {δ α : Type} {name : String} {required : Bool} {get : δ → Option α}
    {put : δ → α → δ} {first second : Value → Read α}
    (h : ∀ v a, untaggedAll v = true → first v = .ok a →
      ReadsLike (choiceNamed name v) (second v) a) :
    Agrees (fun v => untaggedAll v = true) choiceNamed (Field.of name required get put first)
      (Field.of name required get put second) := by
  refine ⟨rfl, rfl, rfl, rfl, ?_⟩
  intro s draft v draft' hs hv hset
  obtain rfl : name = s := by simpa [Field.named, Field.of] using hs
  obtain ⟨a, ha, rfl⟩ := Read.map_eq_ok.1 hset
  have hmap : ∀ r : Read α, r.map (put draft) = r >>= fun a => .ok (put draft a) := by
    intro r
    cases r <;> rfl
  change ReadsLike _ ((second v).map (put draft)) _
  rw [hmap, ← Bool.and_true (choiceNamed name v)]
  exact (h v a hv ha).bind rfl

theorem readOptionalText_eq {w : Wording} {v : Value} (hv : untaggedAll v = true) :
    readOptionalText (Content.dialect w) v = readOptionalText YamlValue.dialect v := by
  have hsome : ∀ d : Dialect Value, d.optional v = .ok (some v) →
      readOptionalText d v = (d.text v).map some := by
    intro d hd
    rw [readOptionalText, hd]
    change (do return some (← d.text v)) = _
    cases d.text v <;> rfl
  cases v with
  | null => rfl
  | _ =>
    rw [hsome _ rfl, hsome _ rfl]
    exact congrArg (Except.map some) (Content.text_eq hv)

theorem fields_agree (w : Wording) :
    List.Forall₂ (Agrees (fun v => untaggedAll v = true) choiceNamed)
      (fields (Content.dialect w)) (fields YamlValue.dialect) := by
  have htext : ∀ v s, untaggedAll v = true → (Content.dialect w).text v = .ok s →
      YamlValue.dialect.text v = .ok s := fun v s hv hs => (Content.text_eq hv).symm.trans hs
  have hoptional : ∀ v s, untaggedAll v = true →
      readOptionalText (Content.dialect w) v = .ok s →
      readOptionalText YamlValue.dialect v = .ok s :=
    fun v s hv hs => (readOptionalText_eq hv).symm.trans hs
  have hchoice : ∀ {α : Type} (known : List String) (f : String → α) (v : Value) (a : α),
      ((Content.dialect w).choice known v).map f = .ok a →
      ReadsLike v.isText ((YamlValue.dialect.choice known v).map f) a := by
    intro α known f v a h
    obtain ⟨s, hs, rfl⟩ := Read.map_eq_ok.1 h
    have hmap : (YamlValue.dialect.choice known v).map f =
        YamlValue.dialect.choice known v >>= fun s => .ok (f s) := by
      cases YamlValue.dialect.choice known v <;> rfl
    rw [hmap, ← Bool.and_true v.isText]
    exact (Content.choice_readsLike hs).bind rfl
  refine .cons (agrees_of htext) (.cons (agrees_of ?_) (.cons (agrees_of htext)
    (.cons (agrees_of htext) (.cons (agrees_of ?_) (.cons (agrees_of htext)
    (.cons (agrees_of hoptional) (.cons (agrees_of ?_) (.cons (agrees_of hoptional)
    (.cons (agrees_of ?_) .nil)))))))))
  · exact fun v p _ h => hchoice _ _ v p h
  · exact fun v s _ h => hchoice _ _ v s h
  · exact fun v b hv h => (Content.flag_eq hv).symm.trans h
  · exact fun v cs hv h => Condition.list_readsLike hv h

def isFieldName (s : String) : Bool := (fields YamlValue.dialect).any (·.named s)

theorem any_named_fields {ν : Type} (d : Dialect ν) (s : String) :
    (fields d).any (·.named s) = isFieldName s := rfl

theorem field?_eq_none_of_not_isFieldName {ν : Type} {d : Dialect ν} {s : String}
    (h : isFieldName s = false) : field? (fields d) (.name s) = none := by
  rw [← any_named_fields d, List.any_eq_false] at h
  exact List.find?_eq_none.2 h

theorem choiceNamed_of_not_isFieldName {s : String} (h : isFieldName s = false) (v : Value) :
    choiceNamed s v = true := by
  have hne : ∀ name, isFieldName name = true → s ≠ name := by
    intro name hname heq
    subst heq
    rw [h] at hname
    cases hname
  have hplatform := hne "platform" (by decide)
  have hseverity := hne "severity" (by decide)
  have hconditions := hne "conditions" (by decide)
  simp [choiceNamed, hplatform, hseverity, hconditions]

theorem choiceNamed_of_field?_eq_none {w : Wording} {s : String}
    (h : field? (fields (Content.dialect w)) (.name s) = none) (v : Value) :
    choiceNamed s v = true := by
  refine choiceNamed_of_not_isFieldName ?_ v
  rcases field?_agrees (fields_agree w) s with ⟨-, hnone⟩ | ⟨f, g, hf, -⟩
  · exact List.any_eq_false.2 (List.find?_eq_none.1 hnone)
  · rw [h] at hf
    cases hf

end Rule

namespace PolicyRule

theorem collect_cons {ν : Type} {d : Dialect ν} (hd : d.Direct) {e : Entry ν} {s : String}
    (hl : e.label = .ok (.name s)) (m : Option RuleMetadata) (others : List (String × Value))
    (es : List (Entry ν)) :
    collect d m others (e :: es) =
      if s = metadataKey then
        if m.isSome then d.refuse (.duplicateField metadataKey)
        else RuleMetadata.read d e.value >>= fun m => collect d (some m) others es
      else d.content e.value >>= fun c => collect d m ((s, c) :: others) es := by
  cases m <;> rw [collect, hl] <;> simp only [hd.within_eq] <;> rfl

theorem keys_of_collect {es : List (Value × Value)} {m : Option RuleMetadata}
    {others : List (String × Value)} {x : RuleMetadata × List (String × Value)}
    (h : collect YamlValue.dialect m others (es.map entryOf) = .ok x) :
    ∀ e ∈ es, e.1.asText?.isSome := by
  induction es generalizing m others with
  | nil => simp
  | cons e es ih =>
    rw [List.map_cons] at h
    have hl : ∃ l, (entryOf e).label = .ok l := by
      cases hm : m <;> rw [hm, collect, Read.bind_eq_ok] at h <;> exact ⟨_, h.choose_spec.1⟩
    obtain ⟨l, hl⟩ := hl
    obtain ⟨s, hs, rfl⟩ := label_eq_ok_iff.1 hl
    have hrest : ∃ m' others', collect YamlValue.dialect m' others' (es.map entryOf) = .ok x := by
      rw [collect_cons direct hl] at h
      split at h
      · split at h
        · cases h
        · obtain ⟨_, -, h⟩ := Read.bind_eq_ok.1 h
          exact ⟨_, _, h⟩
      · obtain ⟨_, -, h⟩ := Read.bind_eq_ok.1 h
        exact ⟨_, _, h⟩
    obtain ⟨m', others', hrest⟩ := hrest
    intro e' he'
    rcases List.mem_cons.1 he' with rfl | he'
    · simp [hs]
    · exact ih hrest e' he'

theorem collect_entriesOf {ps : List (String × Value)} {m : Option RuleMetadata}
    {others : List (String × Value)} {x : RuleMetadata × List (String × Value)}
    (h : collect YamlValue.dialect m others (entriesOf ps) = .ok x) :
    x.2 = others.reverse ++ ps.filter (fun p => p.1 ≠ metadataKey) ∧
      ∀ p ∈ ps, p.1 ≠ metadataKey → untaggedAll p.2 = true := by
  induction ps generalizing m others with
  | nil =>
    cases m with
    | none => cases h
    | some m =>
      obtain rfl : (m, others.reverse) = x := by
        simpa [collect, entriesOf, pure, Except.pure] using h
      simp
  | cons p ps ih =>
    obtain ⟨s, v⟩ := p
    have hcons : entriesOf ((s, v) :: ps) = ⟨pure (.name s), .unknown, v⟩ :: entriesOf ps := rfl
    rw [hcons, collect_cons direct rfl] at h
    by_cases hs : s = metadataKey
    · rw [if_pos hs] at h
      split at h
      · cases h
      · obtain ⟨m', -, h⟩ := Read.bind_eq_ok.1 h
        obtain ⟨hx, hps⟩ := ih h
        refine ⟨by simpa [hs] using hx, ?_⟩
        intro p hp hne
        rcases List.mem_cons.1 hp with rfl | hp
        · exact absurd hs hne
        · exact hps p hp hne
    · rw [if_neg hs] at h
      obtain ⟨c, hc, h⟩ := Read.bind_eq_ok.1 h
      obtain ⟨hv, rfl⟩ : untaggedAll v = true ∧ v = c := by
        change content v = .ok c at hc
        unfold content at hc
        split at hc
        · next hv => exact ⟨hv, by simpa [pure, Except.pure] using hc⟩
        · cases hc
      obtain ⟨hx, hps⟩ := ih h
      refine ⟨by simpa [hs] using hx, ?_⟩
      intro p hp hne
      rcases List.mem_cons.1 hp with rfl | hp
      · exact hv
      · exact hps p hp hne

theorem ne_metadataKey_of_isFieldName {s : String} (h : Rule.isFieldName s = true) :
    s ≠ metadataKey := by
  intro hkey
  rw [hkey] at h
  revert h
  decide

theorem exists_fill_of_ofYaml {v : Value} {p : PolicyRule} (h : ofYaml v = .ok p) :
    ∃ es draft, v.entries? = some es ∧ (∀ e ∈ es, e.1.asText?.isSome) ∧
      (∀ e ∈ Value.named es, Rule.isFieldName e.1 = true → untaggedAll e.2 = true) ∧
      (Value.named es).foldlM (take (Content.dialect .yaml) (Rule.fields (Content.dialect .yaml)))
        .empty = .ok draft ∧
      missing? (Rule.fields (Content.dialect .yaml)) draft = none ∧
      (Rule.schema (Content.dialect .yaml)).build draft = p.rule := by
  obtain ⟨fs, hfs, h⟩ := Read.bind_eq_ok.1 h
  obtain ⟨es, hes, rfl⟩ := record_eq_ok_iff.1 hfs
  obtain ⟨x, hx, h⟩ := Read.bind_eq_ok.1 h
  obtain ⟨r, hr, h⟩ := Read.bind_eq_ok.1 h
  obtain rfl : (⟨r, x.1⟩ : PolicyRule) = p := by simpa [pure, Except.pure] using h
  have hentries : v.entries? = some es := by
    unfold recordEntries? at hes
    split at hes
    · obtain rfl : [] = es := by simpa using hes
      cases hx
    · exact hes
  have hkeys := keys_of_collect hx
  rw [map_entryOf hkeys] at hx
  obtain ⟨hothers, huntagged⟩ := collect_entriesOf hx
  -- only the fields of the rule count among the entries that were set apart
  have hknown : x.2.filter (fun e => Rule.isFieldName e.1) =
      (Value.named es).filter fun e => Rule.isFieldName e.1 := by
    rw [hothers, List.reverse_nil, List.nil_append, List.filter_filter]
    apply List.filter_congr
    intro e _
    cases he : Rule.isFieldName e.1 with
    | false => simp
    | true => simp [ne_metadataKey_of_isFieldName he]
  obtain ⟨draft, hfill, hfinish⟩ := Read.bind_eq_ok.1 hr
  obtain ⟨hmissing, rfl⟩ := finish_eq_ok_iff.1 hfinish
  refine ⟨es, draft, hentries, hkeys,
    fun e he hname => huntagged e he (ne_metadataKey_of_isFieldName hname), ?_, hmissing, rfl⟩
  rw [← foldlM_take_filter _ _ _ _ _ fun s => Rule.field?_eq_none_of_not_isFieldName, ← hknown,
    ← fill_entriesOf (Content.direct .yaml)]
  exact hfill

/-- A candidate that is read with its metadata is an entry of a rule-set, and the same rule,
exactly if it names its choices. -/
theorem ofYaml_readsLike {v : Value} {p : PolicyRule} (h : ofYaml v = .ok p) :
    ReadsLike (Rule.choicesNamed v) (Rule.read YamlValue.dialect v) p.rule := by
  obtain ⟨es, draft, hentries, hkeys, huntagged, hfill, hmissing, hbuild⟩ := exists_fill_of_ofYaml h
  have hes := recordEntries?_of_entries? hentries
  rw [← foldlM_take_filter _ _ _ _ _ fun s => Rule.field?_eq_none_of_not_isFieldName] at hfill
  have huntagged' : ∀ e ∈ (Value.named es).filter fun e => Rule.isFieldName e.1,
      untaggedAll e.2 = true :=
    fun e he => huntagged e (List.mem_filter.1 he).1 (List.mem_filter.1 he).2
  have hlike := foldlM_take_agrees (Rule.fields_agree .yaml) (Content.dialect .yaml)
    YamlValue.dialect (fun s u hs => Rule.choiceNamed_of_field?_eq_none hs u) huntagged' hfill
  have hgood : ((Value.named es).filter fun e => Rule.isFieldName e.1).all
      (fun e => Rule.choiceNamed e.1 e.2) = Rule.choicesNamed v := by
    rw [List.all_filter, Rule.choicesNamed, hentries]
    refine List.all_congr rfl fun e => ?_
    cases he : Rule.isFieldName e.1 with
    | true => rfl
    | false => simp [Rule.choiceNamed_of_not_isFieldName he]
  rw [hgood, foldlM_take_filter _ _ _ _ _ fun s => Rule.field?_eq_none_of_not_isFieldName] at hlike
  cases hnamed : Rule.choicesNamed v with
  | true =>
    rw [hnamed] at hlike
    refine read_eq_ok_iff.2 ⟨es, draft, hes, hkeys, hlike, ?_, hbuild⟩
    exact (missing?_agrees (Rule.fields_agree .yaml) draft).trans hmissing
  | false =>
    rw [hnamed] at hlike
    intro r' hr'
    obtain ⟨es', draft', hes', -, hfill', -, -⟩ := read_eq_ok_iff.1 hr'
    obtain rfl : es = es' := Option.some_inj.1 (hes.symm.trans hes')
    exact hlike draft' hfill'

end PolicyRule
end StorePolicy

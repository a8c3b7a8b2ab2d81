import StorePolicy.Merge.File
import StorePolicy.Proofs.Candidate.Acceptance
import StorePolicy.Proofs.Candidate.Reading
import StorePolicy.Proofs.Merge.Document
import StorePolicy.Proofs.Merge.Ids
import StorePolicy.Proofs.RuleSet.Validity

/-!
# Merging into rule-sets that can be loaded

An engine keeps a rule-set if its document is read and the rules in it are valid. A merge
into such a document leaves another one in all but four circumstances: the list of rules or the
date stands under a key with a tag, beside which a plain key is put; a candidate of the strict
schema leaves a choice unnamed, which no rule-set may; or ids come to be repeated
where that is rejected. These are all, so without them the merge keeps the document loadable.
-/
namespace StorePolicy.Merge

open Schema YamlValue

def Usable (c : Config) (rules : List Rule) : Prop :=
  (∀ r ∈ rules, r.validate c.engine.maxConditionDepth = .ok ()) ∧
    (c.engine.rejectDuplicateIds = true → (rules.map (·.id)).Nodup)

/-- A document is read as a rule-set that an engine with the configuration keeps. -/
def Loadable (c : Config) (document : Value) : Prop :=
  ∃ s, RuleSet.ofYaml document = .ok s ∧
    s.validate c.engine.maxConditionDepth c.engine.rejectDuplicateIds = .ok ()

/-- A name that is only spelled by keys with tags. -/
def Hidden (name : String) (es : List (Value × Value)) : Prop :=
  lookupKey name es = none ∧ under name es ≠ []

theorem not_hidden_of_lookupKey {name : String} {es : List (Value × Value)} {v : Value}
    (h : lookupKey name es = some v) : ¬Hidden name es := by
  intro hidden
  rw [hidden.1] at h
  cases h

section Under

variable {key : String} {es : List (Value × Value)} {x : Value}

theorem under_append (name : String) (before after : List (Value × Value)) :
    under name (before ++ after) = under name before ++ under name after := by
  simp [under]

theorem under_cons_str (name k : String) (v : Value) (rest : List (Value × Value)) :
    under name ((.str k, v) :: rest) = if k = name then v :: under name rest else under name rest := by
  by_cases hk : k = name <;> simp [under, Value.asText?, hk]

theorem under_setKey_of_ne {name : String} (h : name ≠ key) (x : Value) :
    under name (setKey key x es) = under name es := by
  cases hl : lookupKey key es with
  | none =>
    rw [setKey_eq_append key x es hl, under_append, under_cons_str, if_neg h.symm]
    exact List.append_nil _
  | some v =>
    obtain ⟨before, after, hes, hset⟩ := exists_split_of_lookupKey hl
    rw [hset, hes, under_append, under_append, under_cons_str, under_cons_str, if_neg h.symm,
      if_neg h.symm]

theorem keys_texts_setKey (key : String) (x : Value) (es : List (Value × Value)) :
    (∀ e ∈ setKey key x es, e.1.asText?.isSome) ↔ ∀ e ∈ es, e.1.asText?.isSome := by
  have hmap : ∀ l : List (Value × Value), (∀ e ∈ l, e.1.asText?.isSome) ↔
      ∀ k ∈ l.map Prod.fst, k.asText?.isSome := by
    intro l
    simp only [List.forall_mem_map]
  rw [hmap, hmap, keys_setKey]
  constructor
  · exact fun h k hk => h k (List.mem_append_left _ hk)
  · intro h k hk
    rcases List.mem_append.1 hk with hk | hk
    · exact h k hk
    · split at hk
      · rw [List.mem_singleton.1 hk]
        rfl
      · cases hk

theorem slot_setKey_iff {α : Type} {read : Value → Read α} {o o' : Option α}
    (h : Slot read (under key es) none o) :
    Slot read (under key (setKey key x es)) none o' ↔
      ¬Hidden key es ∧ ∃ a, read x = .ok a ∧ o' = some a := by
  have hsingle : Slot read [x] none o' ↔ ∃ a, read x = .ok a ∧ o' = some a := by
    simp [Slot.cons_iff, Slot.nil_iff]
  cases hl : lookupKey key es with
  | none =>
    have hset : under key (setKey key x es) = under key es ++ [x] := by
      rw [setKey_eq_append key x es hl, under_append, under_cons_str, if_pos rfl]
      rfl
    rw [hset]
    generalize hu : under key es = vs at h
    cases h with
    | kept =>
      have hnot : ¬Hidden key es := fun hidden => hidden.2 hu
      simpa [hnot] using hsingle
    | @filled v a ha =>
      have hhidden : Hidden key es := ⟨hl, by simp [hu]⟩
      simp [hhidden, Slot.cons_iff, Slot.set_iff]
  | some w =>
    have hnot := not_hidden_of_lookupKey hl
    obtain ⟨before, after, hes, hset⟩ := exists_split_of_lookupKey hl
    have hold : under key es = under key before ++ w :: under key after := by
      rw [hes, under_append, under_cons_str, if_pos rfl]
    have hnew : under key (setKey key x es) = under key before ++ x :: under key after := by
      rw [hset, under_append, under_cons_str, if_pos rfl]
    have hlone : under key before = [] ∧ under key after = [] := by
      generalize hu : under key es = vs at h
      cases h with
      | kept => simp [hold] at hu
      | filled ha =>
        rw [hold] at hu
        cases hb : under key before with
        | nil =>
          rw [hb, List.nil_append, List.cons.injEq] at hu
          exact ⟨rfl, hu.2⟩
        | cons b bs => simp [hb] at hu
    rw [hnew, hlone.1, hlone.2, List.nil_append, hsingle]
    simp [hnot]

end Under

theorem writtenId?_of_read {v : Value} {r : Rule} (h : Rule.read dialect v = .ok r) :
    writtenId? v = some r.id := by
  simp [writtenId?, h]

theorem map_writtenId? {vs : List Value} {rs : List Rule}
    (h : List.Forall₂ (fun v r => Rule.read dialect v = .ok r) vs rs) :
    vs.map writtenId? = (rs.map (·.id)).map some := by
  induction h with
  | nil => rfl
  | cons hv _ ih => simp [writtenId?_of_read hv, ih]

theorem exists_usable_iff {c : Config} {vs : List Value} :
    (∃ rs, List.Forall₂ (fun v r => Rule.read dialect v = .ok r) vs rs ∧ Usable c rs) ↔
      (∀ v ∈ vs, ∃ r, Rule.read dialect v = .ok r ∧
        r.validate c.engine.maxConditionDepth = .ok ()) ∧
      (c.engine.rejectDuplicateIds = true → (vs.map writtenId?).Nodup) := by
  have hids : ∀ rs : List Rule, ((rs.map (·.id)).map some).Nodup ↔ (rs.map (·.id)).Nodup :=
    fun rs => List.nodup_map_iff fun _ _ => Option.some_inj.1
  constructor
  · intro h
    obtain ⟨rs, hread, hvalid, hdistinct⟩ := h
    rw [map_writtenId? hread, hids]
    refine ⟨?_, hdistinct⟩
    clear hdistinct
    induction hread with
    | nil => simp
    | @cons v r vs rs hv _ ih =>
      rw [List.forall_mem_cons] at hvalid ⊢
      exact ⟨⟨r, hv, hvalid.1⟩, ih hvalid.2⟩
  · intro h
    obtain ⟨hvs, hdistinct⟩ := h
    have hread : ∃ rs, List.Forall₂ (fun v r => Rule.read dialect v = .ok r) vs rs ∧
        ∀ r ∈ rs, r.validate c.engine.maxConditionDepth = .ok () := by
      clear hdistinct
      induction vs with
      | nil => exact ⟨[], .nil, by simp⟩
      | cons v vs ih =>
        obtain ⟨⟨r, hv, hr⟩, hvs⟩ := List.forall_mem_cons.1 hvs
        obtain ⟨rs, hread, hrs⟩ := ih hvs
        exact ⟨r :: rs, .cons hv hread, List.forall_mem_cons.2 ⟨hr, hrs⟩⟩
    obtain ⟨rs, hread, hrs⟩ := hread
    rw [map_writtenId? hread, hids] at hdistinct
    exact ⟨rs, hread, hrs, hdistinct⟩

/-- What an accepted candidate lacks of an entry of a rule-set: nothing but names for its choices,
and these only in the strict schema. -/
theorem exists_read_of_accepted {c : Config} (hdepth : 1 ≤ c.engine.maxConditionDepth) {v : Value}
    (h : (RuleSetFile.ofConfig c).acceptance.check v = .ok ()) :
    (∃ r, Rule.read dialect v = .ok r ∧ r.validate c.engine.maxConditionDepth = .ok ()) ↔
      (c.merge.strict = true → Rule.choicesNamed v = true) := by
  cases hstrict : c.merge.strict with
  | false =>
    simp only [RuleSetFile.ofConfig, hstrict, Bool.false_eq_true, if_false, Acceptance.check] at h
    cases hread : Rule.read dialect v with
    | error f => simp [hread] at h
    | ok r =>
      cases hvalid : r.validate c.engine.maxConditionDepth with
      | error f =>
        rw [hread] at h
        change (r.validate c.engine.maxConditionDepth).mapError SchemaFault.message = .ok () at h
        rw [hvalid] at h
        cases h
      | ok u => simp [hvalid]
  | true =>
    simp only [RuleSetFile.ofConfig, hstrict, if_true] at h
    obtain ⟨p, hparse⟩ := exists_parse_of_check h
    obtain ⟨hread, hacceptable⟩ := PolicyRule.parse_eq_ok_iff.1 hparse
    have hmax : c.settings.maxDepth = c.engine.maxConditionDepth := Nat.max_eq_left hdepth
    have hvalid := hacceptable.valid
    rw [hmax] at hvalid
    have hlike := PolicyRule.ofYaml_readsLike hread
    cases hnamed : Rule.choicesNamed v with
    | true =>
      rw [hnamed] at hlike
      have hrule : Rule.read dialect v = .ok p.rule := hlike
      simp [hrule, hvalid]
    | false =>
      rw [hnamed] at hlike
      have hnone : ∀ r, Rule.read dialect v ≠ .ok r := hlike
      simp [hnone]

def AcceptedBy (a : Acceptance) (accs : List (String × Value)) : Prop :=
  ∀ id v, latest? id accs = some v → idOf? v = some id ∧ a.check v = .ok ()

theorem AcceptedBy.listed {a : Acceptance} {accs : List (String × Value)} (h : AcceptedBy a accs) :
    Listed accs :=
  fun id v hv => (h id v hv).1

theorem acceptedBy_accepted (a : Acceptance) (batch : List Value) :
    AcceptedBy a (accepted a batch) :=
  fun _ _ h => (mem_accepted_iff.1 (mem_of_latest? h)).2

/-- In which circumstances a merge into a loadable document leaves one. -/
structure KeepsLoadable (c : Config) (accs : List (String × Value)) (old : List (Value × Value)) :
    Prop where
  rulesPlain : ¬Hidden rulesKey old
  datePlain : accs ≠ [] → ¬Hidden dateKey old
  choices : c.merge.strict = true → ∀ id v, latest? id accs = some v → Rule.choicesNamed v = true
  apart : c.engine.rejectDuplicateIds = true → Apart accs (rulesOf old)
  unseen : c.engine.rejectDuplicateIds = true → Unseen accs (rulesOf old)

theorem exists_usable_mergedRules_iff {c : Config} (hdepth : 1 ≤ c.engine.maxConditionDepth)
    {accs : List (String × Value)} (haccs : AcceptedBy (RuleSetFile.ofConfig c).acceptance accs)
    {old : List Value} {rs : List Rule}
    (hold : List.Forall₂ (fun v r => Rule.read dialect v = .ok r) old rs) (hrs : Usable c rs) :
    (∃ rs', List.Forall₂ (fun v r => Rule.read dialect v = .ok r) (mergedRules accs old) rs' ∧
        Usable c rs') ↔
      (c.merge.strict = true → ∀ id v, latest? id accs = some v → Rule.choicesNamed v = true) ∧
      (c.engine.rejectDuplicateIds = true → Apart accs old) ∧
      (c.engine.rejectDuplicateIds = true → Unseen accs old) := by
  obtain ⟨hvalid, hdistinct⟩ := exists_usable_iff.1 ⟨rs, hold, hrs⟩
  -- old entries are usable, so all hangs on the last candidates, and none of them is lost
  have hentries : (∀ v ∈ mergedRules accs old, ∃ r, Rule.read dialect v = .ok r ∧
      r.validate c.engine.maxConditionDepth = .ok ()) ↔
      (c.merge.strict = true → ∀ id v, latest? id accs = some v → Rule.choicesNamed v = true) := by
    constructor
    · intro h hstrict id v hv
      exact (exists_read_of_accepted hdepth (haccs id v hv).2).1
        (h v (mem_mergedRules_of_latest? hv)) hstrict
    · intro h v hv
      have hlatest : ∀ id u, latest? id accs = some u → ∃ r, Rule.read dialect u = .ok r ∧
          r.validate c.engine.maxConditionDepth = .ok () := fun id u hu =>
        (exists_read_of_accepted hdepth (haccs id u hu).2).2 fun hstrict => h hstrict id u hu
      rcases mem_mergedRules_iff.1 hv with ⟨u, hu, rfl⟩ | ⟨id, -, hid⟩
      · rcases successor_cases accs u with ⟨id, w, -, hw, hs⟩ | ⟨-, hs⟩
        · rw [hs]
          exact hlatest id w hw
        · rw [hs]
          exact hvalid u hu
      · exact hlatest id v hid
  rw [exists_usable_iff, hentries]
  refine and_congr_right fun hchoices => ?_
  have hread : ∀ u ∈ mergedRules accs old, (writtenId? u).isSome := by
    intro u hu
    obtain ⟨r, hr, -⟩ := hentries.2 hchoices u hu
    simp [writtenId?_of_read hr]
  cases hreject : c.engine.rejectDuplicateIds with
  | false => simp
  | true => simpa using nodup_mergedRules_iff haccs.listed hread (hdistinct hreject)

theorem loadable_iff {c : Config} {document : Value} {es : List (Value × Value)}
    (hes : document.entries? = some es) :
    Loadable c document ↔ (∀ e ∈ es, e.1.asText?.isSome) ∧
      (∃ version, Slot text (under "version" es) none version) ∧
      (∃ date, Slot text (under dateKey es) none date) ∧
      ∃ rules, Slot (dialect.list (Rule.read dialect)) (under rulesKey es) none rules ∧
        Usable c (rules.getD []) := by
  have hrecord := recordEntries?_of_entries? hes
  simp only [Loadable, RuleSet.ofYaml_eq_ok_iff, RuleSet.validate_eq_ok_iff, hrecord]
  constructor
  · intro h
    obtain ⟨s, ⟨es', version, date, rules, hes', hkeys, h1, h2, h3, rfl⟩, hvalid⟩ := h
    obtain rfl := Option.some_inj.1 hes'
    exact ⟨hkeys, ⟨version, h1⟩, ⟨date, h2⟩, rules, h3, hvalid⟩
  · intro h
    obtain ⟨hkeys, ⟨version, h1⟩, ⟨date, h2⟩, rules, h3, hvalid⟩ := h
    exact ⟨_, ⟨es, version, date, rules, rfl, hkeys, h1, h2, h3, rfl⟩, hvalid⟩

theorem read_rulesOf {es : List (Value × Value)} {rules : Option (List Rule)}
    (hslot : Slot (dialect.list (Rule.read dialect)) (under rulesKey es) none rules)
    (hplain : ¬Hidden rulesKey es) :
    (∀ list, lookupKey rulesKey es = some list →
      list.isNull = true ∨ ∃ items, list.items? = some items) ∧
    List.Forall₂ (fun v r => Rule.read dialect v = .ok r) (rulesOf es) (rules.getD []) := by
  unfold rulesOf
  cases hl : lookupKey rulesKey es with
  | none =>
    have hnil : under rulesKey es = [] := by
      by_contra hne
      exact hplain ⟨hl, hne⟩
    rw [hnil, Slot.nil_iff] at hslot
    subst hslot
    exact ⟨by simp, .nil⟩
  | some list =>
    have hmem := mem_under_of_lookupKey hl
    generalize under rulesKey es = vs at hslot hmem
    cases hslot with
    | kept => cases hmem
    | filled hread =>
      obtain rfl := List.mem_singleton.1 hmem
      obtain ⟨items, hitems, hrules⟩ := list_eq_ok_iff.1 hread
      rcases items_eq_ok_iff.1 hitems with ⟨hnull, rfl⟩ | hitems
      · refine ⟨?_, by simpa [Value.items?_eq_none_of_isNull hnull] using hrules⟩
        intro l hsome
        exact Or.inl (Option.some_inj.1 hsome ▸ hnull)
      · refine ⟨?_, by simpa [hitems] using hrules⟩
        intro l hsome
        exact Or.inr ⟨items, Option.some_inj.1 hsome ▸ hitems⟩

theorem loadable_emptyDocument (c : Config) : Loadable c emptyDocument := by
  refine (loadable_iff rfl).2 ⟨?_, ⟨some "1.0", ?_⟩, ⟨some "", ?_⟩, some [], ?_, ?_⟩
  · simp [Value.asText?]
  · exact Slot.filled (v := Value.str "1.0") rfl
  · exact Slot.filled (v := Value.str "") rfl
  · exact Slot.filled (v := Value.seq []) rfl
  · simp [Usable]

theorem Loadable.base {c : Config} {document : Value} (h : Loadable c document) :
    Loadable c (base document) := by
  unfold Merge.base
  split
  · exact loadable_emptyDocument c
  · exact h

theorem Loadable.entries {c : Config} {document : Value} (h : Loadable c document) :
    document.isNull = true ∨ ∃ es, document.entries? = some es := by
  obtain ⟨s, hs, -⟩ := h
  obtain ⟨es, _, _, _, hes, -⟩ := RuleSet.ofYaml_eq_ok_iff.1 hs
  unfold recordEntries? at hes
  split at hes
  · next hnull => exact Or.inl hnull
  · exact Or.inr ⟨es, hes⟩

theorem Loadable.mergeable {c : Config} {document : Value} (h : Loadable c document) :
    Mergeable document := by
  rcases h.entries with hnull | ⟨es, hes⟩
  · exact Or.inl hnull
  · obtain ⟨-, -, -, rules, hslot, -⟩ := (loadable_iff hes).1 h
    refine Or.inr ⟨es, hes, ?_⟩
    intro list hl
    exact (read_rulesOf hslot (not_hidden_of_lookupKey hl)).1 list hl

theorem exists_usable_setKey_iff {c : Config} (hdepth : 1 ≤ c.engine.maxConditionDepth)
    {accs : List (String × Value)} (haccs : AcceptedBy (RuleSetFile.ofConfig c).acceptance accs)
    {old : List (Value × Value)} {rules : Option (List Rule)}
    (hslot : Slot (dialect.list (Rule.read dialect)) (under rulesKey old) none rules)
    (husable : Usable c (rules.getD [])) {list : Value}
    (hlist : list.items? = some (mergedRules accs (rulesOf old))) :
    (∃ rules', Slot (dialect.list (Rule.read dialect)) (under rulesKey (setKey rulesKey list old))
        none rules' ∧ Usable c (rules'.getD [])) ↔
      ¬Hidden rulesKey old ∧
      (c.merge.strict = true → ∀ id v, latest? id accs = some v → Rule.choicesNamed v = true) ∧
      (c.engine.rejectDuplicateIds = true → Apart accs (rulesOf old)) ∧
      (c.engine.rejectDuplicateIds = true → Unseen accs (rulesOf old)) := by
  have hitems : ∀ vs, items list = .ok vs ↔ mergedRules accs (rulesOf old) = vs := by
    intro vs
    have hnull : ¬list.isNull = true := by
      intro hnull
      rw [Value.items?_eq_none_of_isNull hnull] at hlist
      cases hlist
    rw [items_eq_ok_iff, hlist, Option.some_inj]
    exact or_iff_right fun h => hnull h.1
  simp only [slot_setKey_iff hslot, list_eq_ok_iff, hitems]
  constructor
  · intro h
    obtain ⟨rules', ⟨hplain, rs', ⟨vs, rfl, hread⟩, rfl⟩, hvalid⟩ := h
    have hold := (read_rulesOf hslot hplain).2
    exact ⟨hplain,
      (exists_usable_mergedRules_iff hdepth haccs hold husable).1 ⟨rs', hread, hvalid⟩⟩
  · intro h
    obtain ⟨hplain, hkeeps⟩ := h
    have hold := (read_rulesOf hslot hplain).2
    obtain ⟨rs', hread, hvalid⟩ :=
      (exists_usable_mergedRules_iff hdepth haccs hold husable).2 hkeeps
    exact ⟨some rs', ⟨hplain, rs', ⟨_, rfl, hread⟩, rfl⟩, hvalid⟩

theorem hidden_setKey_of_ne {name key : String} (hne : name ≠ key) {value : Value}
    {es : List (Value × Value)} : Hidden name (setKey key value es) ↔ Hidden name es := by
  rw [Hidden, Hidden, under_setKey_of_ne hne, lookupKey_setKey_of_ne _ _ _ hne]

theorem exists_date_setKey_iff {es : List (Value × Value)} {date : Option String}
    (hdate : Slot text (under dateKey es) none date) (today : String) :
    (∃ date', Slot text (under dateKey (setKey dateKey (.str today) es)) none date') ↔
      ¬Hidden dateKey es := by
  simp only [slot_setKey_iff hdate]
  constructor
  · intro h
    obtain ⟨date', hplain, -⟩ := h
    exact hplain
  · intro hplain
    exact ⟨some today, hplain, today, rfl, rfl⟩

theorem loadable_mergedEntries_iff {c : Config} (hdepth : 1 ≤ c.engine.maxConditionDepth)
    {document : Value} (h : Loadable c document) {accs : List (String × Value)}
    (haccs : AcceptedBy (RuleSetFile.ofConfig c).acceptance accs) (today : String) :
    Loadable c (withEntries (mergedEntries accs today (baseEntries document)) (base document)) ↔
      KeepsLoadable c accs (baseEntries document) := by
  have hbase := h.mergeable.base_entries.1
  obtain ⟨hkeys, hversion, ⟨date, hdate⟩, rules, hrules, husable⟩ := (loadable_iff hbase).1 h.base
  have hne := dateKey_ne_rulesKey
  rw [loadable_iff (entries?_withEntries _ _), mergedEntries, setKey_ensureRules]
  generalize baseEntries document = old at hkeys hversion hdate hrules ⊢
  generalize hlist : withItems (mergedRules accs (rulesOf old))
    ((lookupKey rulesKey (ensureRules old)).getD .null) = list
  have hitems : list.items? = some (mergedRules accs (rulesOf old)) := by
    rw [← hlist, items?_withItems]
  have hnew := exists_usable_setKey_iff hdepth haccs hrules husable hitems
  have hkeep : ∀ name, name ≠ rulesKey →
      under name (setKey rulesKey list old) = under name old :=
    fun name hname => under_setKey_of_ne hname list
  have hkeysNew := (keys_texts_setKey rulesKey list old).2 hkeys
  -- the date is written only if something was accepted
  by_cases hnil : accs = []
  · subst hnil
    simp only [List.isEmpty_nil, if_true, hkeep "version" (by decide), hkeep dateKey hne, hnew]
    constructor
    · intro h
      obtain ⟨-, -, -, hplain, hchoices, hapart, hunseen⟩ := h
      exact ⟨hplain, fun hnil => absurd rfl hnil, hchoices, hapart, hunseen⟩
    · intro h
      obtain ⟨hplain, -, hchoices, hapart, hunseen⟩ := h
      exact ⟨hkeysNew, hversion, ⟨date, hdate⟩, hplain, hchoices, hapart, hunseen⟩
  · have hslot : Slot text (under dateKey (setKey rulesKey list old)) none date := by
      rw [hkeep dateKey hne]
      exact hdate
    have hdateNew := exists_date_setKey_iff hslot today
    rw [hidden_setKey_of_ne hne] at hdateNew
    have hempty : accs.isEmpty = false := by simpa using hnil
    simp only [hempty, Bool.false_eq_true, if_false, keys_texts_setKey, hdateNew,
      under_setKey_of_ne (show "version" ≠ dateKey by decide), under_setKey_of_ne hne.symm,
      hkeep "version" (by decide), hnew]
    constructor
    · intro h
      obtain ⟨-, -, hdate', hplain, hchoices, hapart, hunseen⟩ := h
      exact ⟨hplain, fun _ => hdate', hchoices, hapart, hunseen⟩
    · intro h
      obtain ⟨hplain, hdate', hchoices, hapart, hunseen⟩ := h
      exact ⟨hkeys, hversion, hdate' hnil, hplain, hchoices, hapart, hunseen⟩

/-- A merge into a loadable document gives another one exactly in the circumstances named above. -/
theorem loadable_candidates_iff {c : Config} (hdepth : 1 ≤ c.engine.maxConditionDepth)
    {document : Value} (h : Loadable c document) (today : String) (batch : List Value) :
    ∃ new report,
      (candidates (RuleSetFile.ofConfig c).acceptance today document batch).value =
        .ok (new, report) ∧
      (Loadable c new ↔ KeepsLoadable c (accepted (RuleSetFile.ofConfig c).acceptance batch)
        (baseEntries document)) :=
  ⟨_, _, candidates_eq h.mergeable _ today batch,
    loadable_mergedEntries_iff hdepth h (acceptedBy_accepted _ batch) today⟩

theorem loadable_candidates_of_one_rule :
    let condition : Value := .map [(.str "type", .str "file_exists"), (.str "target", .str "a.txt")]
    let rule : Value := .map [(.str "id", .str "OLD_1"), (.str "title", .str "t"),
      (.str "description", .str "d"), (.str "category", .str "c"),
      (.str "conditions", .seq [condition])]
    let document : Value := .map [(.str "version", .str "1.0"), (.str "rules", .seq [rule])]
    let metadata : Value := .map [(.str "source_url", .str "u"), (.str "quote", .str "q"),
      (.str "ai_reasoning", .str "r")]
    let candidate : Value := .map [(.str "id", .str "OLD_1"), (.str "platform", .str "ios"),
      (.str "title", .str "t"), (.str "description", .str "d"), (.str "category", .str "c"),
      (.str "conditions", .seq [condition]), (.str "metadata", metadata)]
    accepted (RuleSetFile.ofConfig .usual).acceptance [candidate] = [("OLD_1", candidate)] ∧
    1 ≤ Config.usual.engine.maxConditionDepth ∧ Loadable .usual document ∧
    ∃ new report,
      (candidates (RuleSetFile.ofConfig .usual).acceptance "2024-06-01" document [candidate]).value =
        .ok (new, report) ∧
      (Loadable .usual new ↔ KeepsLoadable .usual
        (accepted (RuleSetFile.ofConfig .usual).acceptance [candidate]) (baseEntries document)) := by
  intro condition rule document metadata candidate
  have hdepth : 1 ≤ Config.usual.engine.maxConditionDepth := by decide
  have hload : Loadable .usual document := ⟨_, rfl, rfl⟩
  exact ⟨rfl, hdepth, hload, loadable_candidates_iff hdepth hload "2024-06-01" [candidate]⟩

/-- The strict schema accepts a platform that is written as a mapping, and no rule-set with it can
be loaded. -/
theorem not_loadable_of_platform_mapping :
    let condition : Value := .map [(.str "type", .str "file_exists"), (.str "target", .str "a.txt")]
    let metadata : Value := .map [(.str "source_url", .str "u"), (.str "quote", .str "q"),
      (.str "ai_reasoning", .str "r")]
    let candidate : Value := .map [(.str "id", .str "NEW_1"),
      (.str "platform", .map [(.str "ios", .null)]), (.str "title", .str "t"),
      (.str "description", .str "d"), (.str "category", .str "c"),
      (.str "conditions", .seq [condition]), (.str "metadata", metadata)]
    Loadable .usual emptyDocument ∧ ∃ new report,
      (candidates (RuleSetFile.ofConfig .usual).acceptance "2024-06-01" emptyDocument
        [candidate]).value = .ok (new, report) ∧ ¬Loadable .usual new := by
  intro condition metadata candidate
  have hload := loadable_emptyDocument .usual
  have haccepted : accepted (RuleSetFile.ofConfig .usual).acceptance [candidate] =
      [("NEW_1", candidate)] := rfl
  refine ⟨hload, _, _, candidates_eq hload.mergeable _ _ _, ?_⟩
  rw [loadable_mergedEntries_iff (by decide) hload (acceptedBy_accepted _ _), haccepted]
  intro hkeeps
  have hnamed := hkeeps.choices rfl "NEW_1" candidate rfl
  cases hnamed

end StorePolicy.Merge

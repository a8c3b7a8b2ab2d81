import StorePolicy.Proofs.Merge.ClosedForm
import StorePolicy.Proofs.Value

/-!
# The document after a merge

Beside the list of rules a merge touches the date of a document and nothing else: all other keys
stay with their values in their order, a missing key is added at the end, and the date changes
only if something was accepted.
-/
namespace StorePolicy.Merge

def dateKey : String := "last_updated"

theorem setKey_cons (key : String) (value : Value) (e : Value × Value)
    (rest : List (Value × Value)) :
    setKey key value (e :: rest) =
      if isKey key e then (.str key, value) :: rest else e :: setKey key value rest := by
  obtain ⟨k, v⟩ := e
  cases k with
  | str k =>
    by_cases hk : k = key
    · simp [setKey, isKey, hk]
    · simp [setKey, isKey, hk]
  | _ => simp [setKey, isKey]

section SetKey

variable (key : String) (value : Value) (entries : List (Value × Value))

theorem lookupKey_setKey_self : lookupKey key (setKey key value entries) = some value := by
  induction entries with
  | nil => simp [setKey, lookupKey]
  | cons e rest ih =>
    rw [setKey_cons]
    split
    · simp [lookupKey]
    · next h => rw [lookupKey_cons, if_neg h, ih]

theorem lookupKey_setKey_of_ne {k : String} (hk : k ≠ key) :
    lookupKey k (setKey key value entries) = lookupKey k entries := by
  induction entries with
  | nil => simp [setKey, lookupKey, hk.symm]
  | cons e rest ih =>
    rw [setKey_cons]
    split
    · next h =>
      have he : isKey k e = false := by
        rw [Bool.eq_false_iff, ne_eq, isKey_iff, isKey_iff.1 h]
        simpa using hk.symm
      simp [lookupKey_cons, he, lookupKey, hk.symm]
    · rw [lookupKey_cons, lookupKey_cons, ih]

theorem filter_setKey (keep : Value × Value → Bool)
    (h : ∀ e : Value × Value, e.1 = .str key → keep e = false) :
    (setKey key value entries).filter keep = entries.filter keep := by
  induction entries with
  | nil => simp [setKey, h]
  | cons e rest ih =>
    rw [setKey_cons]
    split
    · next he =>
      simp [h (.str key, value) rfl, h e (isKey_iff.1 he)]
    · simp only [List.filter_cons, ih]

theorem keys_setKey :
    (setKey key value entries).map Prod.fst =
      entries.map Prod.fst ++ (if (lookupKey key entries).isNone then [.str key] else []) := by
  induction entries with
  | nil => simp [setKey, lookupKey]
  | cons e rest ih =>
    rw [setKey_cons, lookupKey_cons]
    split
    · next he => simp [isKey_iff.1 he]
    · simp [ih]

theorem setKey_eq_append (h : lookupKey key entries = none) :
    setKey key value entries = entries ++ [(.str key, value)] := by
  induction entries with
  | nil => rfl
  | cons e rest ih =>
    rw [lookupKey_cons] at h
    split at h
    · cases h
    · next he => rw [setKey_cons, if_neg he, ih h, List.cons_append]

theorem setKey_setKey (other : Value) :
    setKey key value (setKey key other entries) = setKey key value entries := by
  induction entries with
  | nil => simp [setKey]
  | cons e rest ih =>
    rw [setKey_cons, setKey_cons]
    split
    · simp [setKey]
    · next he => rw [setKey_cons, if_neg he, ih]

end SetKey

theorem setKey_comm {key other : String} (hne : key ≠ other) (value date : Value)
    {entries : List (Value × Value)} (h : (lookupKey key entries).isSome) :
    setKey key value (setKey other date entries) = setKey other date (setKey key value entries) := by
  induction entries with
  | nil => cases h
  | cons e rest ih =>
    rw [lookupKey_cons] at h
    have hset : isKey key (.str other, date) = false := by simp [isKey, hne.symm]
    have hset' : isKey other (.str key, value) = false := by simp [isKey, hne]
    cases hkey : isKey key e with
    | true =>
      have hother : isKey other e = false := by
        rw [Bool.eq_false_iff, ne_eq, isKey_iff, isKey_iff.1 hkey]
        simpa using hne
      simp [setKey_cons, hkey, hother, hset']
    | false =>
      cases hother : isKey other e with
      | true => simp [setKey_cons, hkey, hother, hset]
      | false =>
        rw [hkey, if_neg Bool.false_ne_true] at h
        simp [setKey_cons, hkey, hother, ih h]

theorem exists_split_of_lookupKey {key : String} {entries : List (Value × Value)} {v : Value}
    (h : lookupKey key entries = some v) :
    ∃ before after, entries = before ++ (.str key, v) :: after ∧
      ∀ value, setKey key value entries = before ++ (.str key, value) :: after := by
  induction entries with
  | nil => cases h
  | cons e rest ih =>
    rw [lookupKey_cons] at h
    split at h
    · next he =>
      obtain rfl := Option.some_inj.1 h
      refine ⟨[], rest, ?_, fun value => ?_⟩
      · rw [← isKey_iff.1 he, List.nil_append]
      · rw [setKey_cons, if_pos he, List.nil_append]
    · next he =>
      obtain ⟨before, after, hrest, hset⟩ := ih h
      refine ⟨e :: before, after, by rw [hrest, List.cons_append], fun value => ?_⟩
      rw [setKey_cons, if_neg he, hset, List.cons_append]

@[simp] theorem items?_withItems (items : List Value) (v : Value) :
    (withItems items v).items? = some items := by
  fun_induction withItems items v with
  | case1 t v ih => exact ih
  | case2 v h => rfl

@[simp] theorem entries?_withEntries (entries : List (Value × Value)) (v : Value) :
    (withEntries entries v).entries? = some entries := by
  fun_induction withEntries entries v with
  | case1 t v ih => exact ih
  | case2 v h => rfl

theorem withItems_withItems (items other : List Value) (v : Value) :
    withItems items (withItems other v) = withItems items v := by
  fun_induction withItems other v with
  | case1 t v ih => rw [withItems, withItems, ih]
  | case2 v h => cases v <;> simp_all [withItems]

theorem withEntries_withEntries (entries other : List (Value × Value)) (v : Value) :
    withEntries entries (withEntries other v) = withEntries entries v := by
  fun_induction withEntries other v with
  | case1 t v ih => rw [withEntries, withEntries, ih]
  | case2 v h => cases v <;> simp_all [withEntries]

theorem isNull_withItems (items : List Value) (v : Value) : (withItems items v).isNull = false := by
  rw [Bool.eq_false_iff]
  intro hnull
  have hnone := Value.items?_eq_none_of_isNull hnull
  rw [items?_withItems] at hnone
  cases hnone

def base (document : Value) : Value := if document.isNull then emptyDocument else document

def baseEntries (document : Value) : List (Value × Value) := (base document).entries?.getD []

theorem base_of_entries? {document : Value} {entries : List (Value × Value)}
    (h : document.entries? = some entries) : base document = document := by
  rw [base, Value.isNull_of_entries? h, if_neg Bool.false_ne_true]

theorem baseEntries_of_entries? {document : Value} {entries : List (Value × Value)}
    (h : document.entries? = some entries) : baseEntries document = entries := by
  rw [baseEntries, base_of_entries? h, h, Option.getD_some]

def rulesOf (entries : List (Value × Value)) : List Value :=
  ((lookupKey rulesKey entries).bind Value.items?).getD []

/-- A document is null or a mapping whose rules are a list, null or missing. -/
def Mergeable (document : Value) : Prop :=
  document.isNull = true ∨ ∃ entries, document.entries? = some entries ∧
    ∀ list, lookupKey rulesKey entries = some list →
      list.isNull = true ∨ ∃ items, list.items? = some items

/-- The entries of a document after a merge that accepted `accs`. -/
def mergedEntries (accs : List (String × Value)) (today : String) (old : List (Value × Value)) :
    List (Value × Value) :=
  let list := ((lookupKey rulesKey (ensureRules old)).getD .null)
  let entries := setKey rulesKey (withItems (mergedRules accs (rulesOf old)) list) (ensureRules old)
  if accs.isEmpty then entries else setKey dateKey (.str today) entries

theorem ensureRules_of_lookupKey {entries : List (Value × Value)} {list : Value}
    (hl : lookupKey rulesKey entries = some list) (hnull : list.isNull = false) :
    ensureRules entries = entries := by
  rw [ensureRules, hl, Option.map_some, hnull, Option.getD_some, if_neg Bool.false_ne_true]

section EnsureRules

variable (entries : List (Value × Value))

theorem setKey_ensureRules (value : Value) :
    setKey rulesKey value (ensureRules entries) = setKey rulesKey value entries := by
  unfold ensureRules
  split
  · exact setKey_setKey rulesKey value entries (.seq [])
  · rfl

theorem lookupKey_ensureRules
    (h : ∀ list, lookupKey rulesKey entries = some list →
      list.isNull = true ∨ ∃ items, list.items? = some items) :
    ∃ list, lookupKey rulesKey (ensureRules entries) = some list ∧
      list.items? = some (rulesOf entries) := by
  unfold ensureRules rulesOf
  cases hl : lookupKey rulesKey entries with
  | none => exact ⟨.seq [], by simp [lookupKey_setKey_self], rfl⟩
  | some list =>
    cases hn : list.isNull with
    | true =>
      refine ⟨.seq [], by simp [hn, lookupKey_setKey_self], ?_⟩
      simp [Value.items?_eq_none_of_isNull hn, Value.items?]
    | false =>
      rcases h list hl with hnull | ⟨items, hitems⟩
      · simp [hn] at hnull
      · exact ⟨list, by simp [hn, hl], by simp [hitems]⟩

end EnsureRules

section Candidates

variable {document : Value}

theorem Mergeable.base_entries (h : Mergeable document) :
    (base document).entries? = some (baseEntries document) ∧
      ∀ list, lookupKey rulesKey (baseEntries document) = some list →
        list.isNull = true ∨ ∃ items, list.items? = some items := by
  rcases h with hnull | ⟨entries, hentries, hlist⟩
  · have hbase : base document = emptyDocument := if_pos hnull
    refine ⟨by rw [baseEntries, hbase]; rfl, ?_⟩
    intro list hl
    rw [baseEntries, hbase] at hl
    obtain rfl : Value.seq [] = list := by
      simpa [emptyDocument, Value.entries?, lookupKey, rulesKey] using hl
    exact Or.inr ⟨[], rfl⟩
  · rw [baseEntries_of_entries? hentries, base_of_entries? hentries]
    exact ⟨hentries, hlist⟩

theorem mergeable_emptyDocument : Mergeable emptyDocument := by
  refine Or.inr ⟨_, rfl, fun list hl => Or.inr ⟨[], ?_⟩⟩
  obtain rfl : Value.seq [] = list := by simpa [lookupKey, rulesKey] using hl
  rfl

theorem target_eq (h : Mergeable document) :
    ∃ list, lookupKey rulesKey (ensureRules (baseEntries document)) = some list ∧
      target document = .ok ⟨base document, ensureRules (baseEntries document), list,
        rulesOf (baseEntries document)⟩ := by
  obtain ⟨hentries, hlist⟩ := h.base_entries
  obtain ⟨list, hl, hitems⟩ := lookupKey_ensureRules _ hlist
  refine ⟨list, hl, ?_⟩
  unfold base at hentries
  simp only [target, hentries, hl, hitems]
  rfl

theorem candidates_eq (h : Mergeable document) (a : Acceptance) (today : String)
    (batch : List Value) :
    (candidates a today document batch).value =
      .ok (withEntries (mergedEntries (accepted a batch) today (baseEntries document))
          (base document),
        (Progress.run a 0 (.start (rulesOf (baseEntries document))) batch).value.report) := by
  obtain ⟨list, hl, ht⟩ := target_eq h
  -- what is left is that a positive count is the same as a candidate that was accepted
  simp only [candidates, ht, Traced.value_bind, Traced.value_pure, Target.finish, mergedEntries,
    Progress.run_rules, hl, Option.getD_some, Progress.start]
  congr 3
  by_cases hacc : accepted a batch = []
  · have hpos := (Progress.run_accepted_pos_iff a 0 (.start (rulesOf (baseEntries document)))
      batch rfl).not.2 (not_not.2 hacc)
    rw [if_neg (by simpa [Progress.start] using hpos), if_pos (by simp [hacc])]
  · have hpos := (Progress.run_accepted_pos_iff a 0 (.start (rulesOf (baseEntries document)))
      batch rfl).2 hacc
    rw [if_pos (by simpa [Progress.start] using hpos), if_neg (by simpa using hacc)]
    rfl

theorem mergeable_of_target {t : Target} (h : target document = .ok t) : Mergeable document := by
  cases hnull : document.isNull with
  | true => exact Or.inl hnull
  | false =>
    rw [target, hnull, if_neg Bool.false_ne_true] at h
    cases hentries : document.entries? with
    | none => simp [hentries] at h
    | some entries =>
      refine Or.inr ⟨entries, hentries, fun list hl => ?_⟩
      cases hlist : list.isNull with
      | true => exact Or.inl rfl
      | false =>
        cases hitems : list.items? with
        | none => simp [hentries, ensureRules_of_lookupKey hl hlist, hl, hitems] at h
        | some items => exact Or.inr ⟨items, rfl⟩

theorem mergeable_of_candidates {a : Acceptance} {today : String} {batch : List Value}
    {x : Value × MergeReport} (h : (candidates a today document batch).value = .ok x) :
    Mergeable document := by
  unfold candidates at h
  cases ht : target document with
  | error f =>
    rw [ht] at h
    cases h
  | ok t => exact mergeable_of_target ht
end Candidates

/-- What a merge that accepted `accs` makes of the entries of a document. -/
structure Merged (accs : List (String × Value)) (today : String)
    (old new : List (Value × Value)) : Prop where
  rules : (lookupKey rulesKey new).bind Value.items? = some (mergedRules accs (rulesOf old))
  date : lookupKey dateKey new = if accs = [] then lookupKey dateKey old else some (.str today)
  others : (new.filter fun e => !isKey rulesKey e && !isKey dateKey e) =
    old.filter fun e => !isKey rulesKey e && !isKey dateKey e
  keys : new.map Prod.fst = old.map Prod.fst ++
    (if (lookupKey rulesKey old).isNone then [.str rulesKey] else []) ++
    (if accs ≠ [] ∧ (lookupKey dateKey old).isNone then [.str dateKey] else [])

theorem dateKey_ne_rulesKey : dateKey ≠ rulesKey := by decide

theorem merged_mergedEntries (accs : List (String × Value)) (today : String)
    (old : List (Value × Value)) : Merged accs today old (mergedEntries accs today old) := by
  have hne := dateKey_ne_rulesKey
  have hrules : ∀ e : Value × Value, e.1 = .str rulesKey →
      (!isKey rulesKey e && !isKey dateKey e) = false := by
    intro e he
    simp [isKey_iff.2 he]
  have hdate : ∀ e : Value × Value, e.1 = .str dateKey →
      (!isKey rulesKey e && !isKey dateKey e) = false := by
    intro e he
    simp [isKey_iff.2 he]
  have hkept : ∀ value, lookupKey dateKey (setKey rulesKey value old) = lookupKey dateKey old :=
    fun value => lookupKey_setKey_of_ne rulesKey value old hne
  unfold mergedEntries
  simp only [setKey_ensureRules]
  cases haccs : accs with
  | nil =>
    refine ⟨?_, ?_, ?_, ?_⟩
    · simp [lookupKey_setKey_self]
    · simp [hkept]
    · simp only [List.isEmpty_nil, if_true, filter_setKey _ _ _ _ hrules]
    · simp [keys_setKey]
  | cons e rest =>
    refine ⟨?_, ?_, ?_, ?_⟩
    · simp [lookupKey_setKey_of_ne _ _ _ hne.symm, lookupKey_setKey_self]
    · simp [lookupKey_setKey_self]
    · simp only [List.isEmpty_cons, Bool.false_eq_true, if_false, filter_setKey _ _ _ _ hdate,
        filter_setKey _ _ _ _ hrules]
    · simp [keys_setKey, hkept]

end StorePolicy.Merge

import StorePolicy.Proofs.Merge.Runs

/-!
# Merges after merges

Two merges on one day leave the document that one merge of both batches leaves: the closed forms of
the rules compose, the date is set once, and the keys that the first merge adds are there for the
second. A batch that is merged again finds each of its ids, and under each its own last candidate, so
it changes nothing and adds nothing.
-/
namespace StorePolicy.Merge

section Again

variable {accs : List (String × Value)} {old : List Value}

theorem latest?_append (id : String) (accs more : List (String × Value)) :
    latest? id (accs ++ more) = (latest? id more).or (latest? id accs) := by
  induction accs with
  | nil => simp [latest?]
  | cons e accs ih =>
    obtain ⟨k, v⟩ := e
    rw [List.cons_append, latest?, latest?, ih, Option.or_assoc]

theorem newIds_append_self (accs : List (String × Value)) (old : List Value) :
    newIds (accs ++ accs) old = newIds accs old := by
  have hself : ∀ ids : List String, ids.removeAll ids = [] := by
    intro ids
    simp [List.removeAll]
  simp only [newIds, List.map_append, List.filter_append, List.eraseDups_append, hself,
    List.eraseDups_nil, List.append_nil]

theorem mergedRules_again (h : ∀ e ∈ accs, idOf? e.2 = some e.1) (old : List Value) :
    mergedRules accs (mergedRules accs old) = mergedRules accs old := by
  have hlatest : ∀ id, latest? id (accs ++ accs) = latest? id accs := by
    intro id
    rw [latest?_append, Option.or_self]
  rw [← mergedRules_append h, mergedRules, mergedRules, newIds_append_self]
  simp only [replaced, hlatest]

theorem newIds_mergedRules (h : ∀ e ∈ accs, idOf? e.2 = some e.1) (old : List Value) :
    newIds accs (mergedRules accs old) = [] := by
  rw [List.eq_nil_iff_forall_not_mem]
  intro id hid
  obtain ⟨haccepted, habsent⟩ := mem_newIds_iff.1 hid
  obtain ⟨v, hv⟩ := Option.isSome_iff_exists.1 (latest?_isSome_iff.2 haccepted)
  have hknown : idOf? v = some id := h _ (mem_of_latest? hv)
  -- the last candidate with the id is an entry, in an old place or at the end
  have hmem : v ∈ mergedRules accs old := by
    cases hold : old.any (Progress.holdsId id) with
    | true =>
      obtain ⟨w, hw, hholds⟩ := List.any_eq_true.1 hold
      refine List.mem_append_left _ (List.mem_map.2 ⟨w, hw, ?_⟩)
      rw [Progress.holdsId_iff.1 hholds, Option.bind_some, hv, Option.getD_some]
    | false =>
      exact List.mem_append_right _
        (List.mem_filterMap.2 ⟨id, mem_newIds_iff.2 ⟨haccepted, hold⟩, hv⟩)
  exact List.any_eq_false.1 habsent v hmem (Progress.holdsId_iff.2 hknown)

end Again

theorem Progress.run_added (a : Acceptance) (index : Nat) (p : Progress) (batch : List Value) :
    (run a index p batch).value.added = p.added ++ newIds (accepted a batch) p.rules := by
  induction batch generalizing index p with
  | nil => simp [run, accepted, newIds]
  | cons c rest ih =>
    rw [run_cons_value, ih]
    cases hc : acceptedAs? a c with
    | none =>
      obtain ⟨reason, hstep⟩ := step_value_of_rejected hc
      rw [hstep]
      simp [accepted, hc, reject]
    | some e =>
      obtain ⟨id, v⟩ := e
      obtain ⟨rfl, hid, -⟩ := acceptedAs?_eq_some_iff.1 hc
      have haccs : accepted a (v :: rest) = (id, v) :: accepted a rest := by simp [accepted, hc]
      rw [step_value_of_accepted hc, haccs]
      cases hold : p.rules.any (holdsId id) with
      | true =>
        rw [newIds_cons_of_held hid hold, accept, if_pos hold]
        rfl
      | false =>
        rw [newIds_cons_of_absent hid hold, accept, if_neg (by simp [hold])]
        simp [append]

def ruleList (entries : List (Value × Value)) : Value :=
  (lookupKey rulesKey (ensureRules entries)).getD .null

theorem lookupKey_mergedEntries (accs : List (String × Value)) (today : String)
    (old : List (Value × Value)) :
    lookupKey rulesKey (mergedEntries accs today old) =
      some (withItems (mergedRules accs (rulesOf old)) (ruleList old)) := by
  unfold mergedEntries ruleList
  simp only
  split
  · rw [lookupKey_setKey_self]
  · rw [lookupKey_setKey_of_ne _ _ _ dateKey_ne_rulesKey.symm, lookupKey_setKey_self]

/-- The entries after two merges on one day are those after one. -/
theorem mergedEntries_mergedEntries {accs : List (String × Value)}
    (h : ∀ e ∈ accs, idOf? e.2 = some e.1) (more : List (String × Value)) (today : String)
    (old : List (Value × Value)) :
    mergedEntries more today (mergedEntries accs today old) =
      mergedEntries (accs ++ more) today old := by
  have hlist := lookupKey_mergedEntries accs today old
  have hkeys : ensureRules (mergedEntries accs today old) = mergedEntries accs today old :=
    ensureRules_of_lookupKey hlist (isNull_withItems _ _)
  have hrules : rulesOf (mergedEntries accs today old) = mergedRules accs (rulesOf old) := by
    rw [rulesOf, hlist, Option.bind_some, items?_withItems, Option.getD_some]
  rw [mergedEntries, hkeys, hlist, hrules, Option.getD_some, withItems_withItems,
    ← mergedRules_append h]
  -- the keys that the second merge sets are there after the first, or are set last
  have hset : ∀ value other date : Value,
      setKey rulesKey value (setKey dateKey date (setKey rulesKey other (ensureRules old))) =
        setKey dateKey date (setKey rulesKey value (ensureRules old)) := by
    intro value other date
    rw [setKey_comm dateKey_ne_rulesKey.symm _ _ (by rw [lookupKey_setKey_self]; rfl), setKey_setKey]
  cases accs with
  | nil => simp only [mergedEntries, ruleList, List.nil_append, List.isEmpty_nil, if_true, setKey_setKey]
  | cons e accs =>
    cases more with
    | nil => simp [mergedEntries, ruleList, hset]
    | cons e' more => simp [mergedEntries, ruleList, hset, setKey_setKey]

theorem mergedEntries_append_self {accs : List (String × Value)}
    (h : ∀ e ∈ accs, idOf? e.2 = some e.1) (today : String) (old : List (Value × Value)) :
    mergedEntries (accs ++ accs) today old = mergedEntries accs today old := by
  have hempty : (accs ++ accs).isEmpty = accs.isEmpty := by cases accs <;> rfl
  rw [mergedEntries, mergedEntries, mergedRules_append h, mergedRules_again h, hempty]

theorem merged_document {a : Acceptance} {today : String} {document new : Value}
    {report : MergeReport} {batch : List Value}
    (h : (candidates a today document batch).value = .ok (new, report)) :
    new = withEntries (mergedEntries (accepted a batch) today (baseEntries document))
        (base document) ∧
      HoldsRules new (mergedRules (accepted a batch) (rulesOf (baseEntries document))) := by
  rw [candidates_eq (mergeable_of_candidates h)] at h
  obtain ⟨rfl, -⟩ := Prod.mk.inj (Except.ok.inj h)
  refine ⟨rfl, ?_⟩
  rw [HoldsRules, Value.get?, entries?_withEntries, Option.bind_some]
  exact (merged_mergedEntries _ _ _).rules

theorem candidates_of_merged {a : Acceptance} {today : String} {document new : Value}
    {report : MergeReport} {batch : List Value}
    (h : (candidates a today document batch).value = .ok (new, report)) (more : List Value) :
    (candidates a today new more).value =
      .ok (withEntries (mergedEntries (accepted a (batch ++ more)) today (baseEntries document))
          (base document),
        (Progress.run a 0
          (.start (mergedRules (accepted a batch) (rulesOf (baseEntries document)))) more).value.report) := by
  obtain ⟨rfl, hholds⟩ := merged_document h
  rw [candidates_eq hholds.mergeable, hholds.rulesOf_eq, accepted_append,
    ← mergedEntries_mergedEntries idOf?_of_mem_accepted,
    baseEntries_of_entries? (entries?_withEntries _ _), base_of_entries? (entries?_withEntries _ _),
    withEntries_withEntries]

/-- Two merges on one day, either way, leave the document that one merge of both batches leaves, and
a batch that is merged again leaves the document as it is and adds nothing. -/
theorem candidates_compose (a : Acceptance) (today : String) {document new : Value}
    {report : MergeReport} {batch : List Value}
    (h : (candidates a today document batch).value = .ok (new, report)) :
    (∀ more, ∃ last later whole, (candidates a today new more).value = .ok (last, later) ∧
      (candidates a today document (batch ++ more)).value = .ok (last, whole)) ∧
    ∃ again, (candidates a today new batch).value = .ok (new, again) ∧ again.added = [] := by
  have hids : ∀ e ∈ accepted a batch, idOf? e.2 = some e.1 := idOf?_of_mem_accepted
  constructor
  · intro more
    exact ⟨_, _, _, candidates_of_merged h more,
      candidates_eq (mergeable_of_candidates h) a today (batch ++ more)⟩
  · have hagain := candidates_of_merged h batch
    rw [accepted_append, mergedEntries_append_self hids, ← (merged_document h).1] at hagain
    refine ⟨_, hagain, ?_⟩
    rw [Progress.report, Progress.run_added, Progress.start, newIds_mergedRules hids,
      List.append_nil]

theorem candidates_compose_of_repeated_id :
    let entry : Value := .map [(.str "id", .str " A ")]
    let document : Value := .map [(.str "rules", .seq [entry, entry])]
    let rule (id title : String) : Value := .map [(.str "id", .str id), (.str "title", .str title),
      (.str "description", .str "d"), (.str "category", .str "c"), (.str "conditions", .seq [])]
    let batch := [rule "A" "first", rule "B" "new", .null, rule "A" "last"]
    let new : Value := .map [(.str "rules", .seq [rule "A" "last", rule "A" "last", rule "B" "new"]),
      (.str "last_updated", .str "2024-06-01")]
    ∃ report, (candidates (.lenient 1) "2024-06-01" document batch).value = .ok (new, report) ∧
      (∀ more, ∃ last later whole,
        (candidates (.lenient 1) "2024-06-01" new more).value = .ok (last, later) ∧
        (candidates (.lenient 1) "2024-06-01" document (batch ++ more)).value = .ok (last, whole)) ∧
      ∃ again, (candidates (.lenient 1) "2024-06-01" new batch).value = .ok (new, again) ∧
        again.added = [] := by
  intro entry document rule batch new
  have h : (candidates (.lenient 1) "2024-06-01" document batch).value =
      .ok (new, ⟨["B"], ["A"], [⟨2, none, "missing id"⟩], none, 3⟩) := by
    rfl
  exact ⟨_, h, candidates_compose (.lenient 1) "2024-06-01" h⟩

end StorePolicy.Merge

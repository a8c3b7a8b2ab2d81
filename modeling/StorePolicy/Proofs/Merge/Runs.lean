import StorePolicy.Proofs.Candidate.Acceptance
import StorePolicy.Proofs.Candidate.Reading
import StorePolicy.Proofs.Merge.Document
import StorePolicy.Proofs.Merge.Ids
import StorePolicy.Proofs.Text.Letters
import StorePolicy.Proofs.Text.Trim

/-!
# Runs of merges

Merges one after the other leave the rules of one merge of all their batches: accepting more after
a merge is accepting all at once. So what holds of a document after any run is seen from the closed
form of one merge. Under the strict schema the ids by which entries are known are their ids as they
are written, and each entry is a candidate that was accepted, at the place of its id among all that
were ever accepted.
-/
namespace StorePolicy.Merge

open Schema YamlValue

/-- Several merges into one document, each on its day and with its batch. -/
def mergeAll (a : Acceptance) (document : Value) (days : List (String × List Value)) :
    Except Fault Value :=
  days.foldlM (fun document day => (candidates a day.1 document day.2).value.map Prod.fst) document

def HoldsRules (document : Value) (rules : List Value) : Prop :=
  (document.get? rulesKey).bind Value.items? = some rules

theorem accepted_nil (a : Acceptance) : accepted a [] = [] := rfl

theorem accepted_append (a : Acceptance) (batch more : List Value) :
    accepted a (batch ++ more) = accepted a batch ++ accepted a more :=
  List.filterMap_append

theorem mergedRules_append {accs : List (String × Value)}
    (h : ∀ e ∈ accs, idOf? e.2 = some e.1) (more : List (String × Value)) (old : List Value) :
    mergedRules (accs ++ more) old = mergedRules more (mergedRules accs old) := by
  induction accs generalizing old with
  | nil => rw [mergedRules_nil, List.nil_append]
  | cons e accs ih =>
    obtain ⟨id, c⟩ := e
    obtain ⟨hc, hrest⟩ := List.forall_mem_cons.1 h
    have hcons : ∀ accs, mergedRules ((id, c) :: accs) old =
        mergedRules accs ((Progress.start old).accept id c).rules :=
      fun accs => mergedRules_cons hc (.start old)
    rw [List.cons_append, hcons, hcons, ih hrest]

theorem idOf?_of_mem_accepted {a : Acceptance} {batch : List Value} :
    ∀ e ∈ accepted a batch, idOf? e.2 = some e.1 :=
  fun _ he => (mem_accepted_iff.1 he).2.1

section Documents

variable {a : Acceptance} {document : Value} {rules : List Value}

theorem holdsRules_iff :
    HoldsRules document rules ↔ ∃ es list, document.entries? = some es ∧
      lookupKey rulesKey es = some list ∧ list.items? = some rules := by
  simp only [HoldsRules, Value.get?, Option.bind_eq_some_iff]
  constructor
  · intro h
    obtain ⟨list, ⟨es, hes, hlist⟩, hitems⟩ := h
    exact ⟨es, list, hes, hlist, hitems⟩
  · intro h
    obtain ⟨es, list, hes, hlist, hitems⟩ := h
    exact ⟨list, ⟨es, hes, hlist⟩, hitems⟩

theorem HoldsRules.mergeable (h : HoldsRules document rules) : Mergeable document := by
  obtain ⟨es, list, hes, hlist, hitems⟩ := holdsRules_iff.1 h
  refine Or.inr ⟨es, hes, fun list' hlist' => ?_⟩
  obtain rfl := Option.some_inj.1 (hlist.symm.trans hlist')
  exact Or.inr ⟨rules, hitems⟩

theorem HoldsRules.rulesOf_eq (h : HoldsRules document rules) :
    rulesOf (baseEntries document) = rules := by
  obtain ⟨es, list, hes, hlist, hitems⟩ := holdsRules_iff.1 h
  rw [baseEntries_of_entries? hes, rulesOf, hlist, Option.bind_some, hitems, Option.getD_some]

theorem candidates_holdsRules (h : HoldsRules document rules) (today : String)
    (batch : List Value) :
    ∃ new, (candidates a today document batch).value.map Prod.fst = .ok new ∧
      HoldsRules new (mergedRules (accepted a batch) rules) := by
  have hmerged := merged_mergedEntries (accepted a batch) today (baseEntries document)
  refine ⟨withEntries (mergedEntries (accepted a batch) today (baseEntries document))
    (base document), by rw [candidates_eq h.mergeable]; rfl, ?_⟩
  rw [HoldsRules, Value.get?, entries?_withEntries, Option.bind_some, hmerged.rules, h.rulesOf_eq]

/-- Merges one after the other never fail, and leave the rules of one merge of all their batches. -/
theorem mergeAll_holdsRules (h : HoldsRules document rules) (days : List (String × List Value)) :
    ∃ new, mergeAll a document days = .ok new ∧
      HoldsRules new (mergedRules (accepted a (days.flatMap Prod.snd)) rules) := by
  induction days generalizing document rules with
  | nil => exact ⟨document, rfl, by rwa [List.flatMap_nil, accepted_nil, mergedRules_nil]⟩
  | cons day days ih =>
    obtain ⟨mid, hmid, hrules⟩ := candidates_holdsRules (a := a) h day.1 day.2
    obtain ⟨new, hnew, hlast⟩ := ih hrules
    refine ⟨new, ?_, ?_⟩
    · rw [mergeAll, List.foldlM_cons, hmid]
      exact hnew
    · rw [List.flatMap_cons, accepted_append, mergedRules_append idOf?_of_mem_accepted]
      exact hlast

end Documents

section Strict

variable {s : Check.Settings} {v : Value} {p : PolicyRule}

theorem under_id_of_ofYaml (h : PolicyRule.ofYaml v = .ok p) :
    ∃ es w, recordEntries? v = some es ∧ under "id" es = [w] ∧ w.asText? = some p.rule.id := by
  obtain ⟨es, draft, hentries, hkeys, huntagged, hfill, hmissing, hbuild⟩ :=
    PolicyRule.exists_fill_of_ofYaml h
  obtain ⟨w, hw, htext⟩ := exists_id_of_fill hfill hmissing
  have hmem : w ∈ valuesOf ("id" == ·) (Value.named es) := by
    rw [hw]
    exact List.mem_singleton_self w
  obtain ⟨e, he, rfl⟩ := List.mem_map.1 hmem
  obtain ⟨hnamed, hid⟩ := List.mem_filter.1 he
  have hfield : Rule.isFieldName e.1 = true := by
    rw [← eq_of_beq hid]
    decide
  rw [valuesOf_named hkeys] at hw
  refine ⟨es, e.2, recordEntries?_of_entries? hentries, hw, text_eq_ok_iff.1 ?_⟩
  rw [← Content.text_eq (huntagged e hnamed hfield), ← hbuild]
  exact htext

theorem isBlank_of_isIdChar {c : Char} (h : PolicyRule.isIdChar c = true) :
    Text.isBlank c = false := by
  rw [Bool.eq_false_iff]
  intro hblank
  have hletter := Text.isAlphanum_of_isBlank hblank
  obtain ⟨halpha, hdigit⟩ : c.isAlpha = false ∧ c.isDigit = false := Bool.or_eq_false_iff.1 hletter
  obtain ⟨hupper, -⟩ : c.isUpper = false ∧ c.isLower = false := Bool.or_eq_false_iff.1 halpha
  obtain rfl : c = '_' := by simpa [PolicyRule.isIdChar, hupper, hdigit] using h
  cases hblank

theorem trimmed_of_isStrictId {id : String} (h : PolicyRule.IsStrictId id) :
    Text.trimmed id = id := by
  have htight : Text.Tight id.toList :=
    Text.tight_of_forall fun c hc => isBlank_of_isIdChar (h.chars c hc)
  rw [Text.trimmed, htight.trim_eq, String.ofList_toList]

theorem id_of_accepted {id : String} (hid : idOf? v = some id)
    (h : PolicyRule.parse s v = .ok p) : idField? v = some id ∧ p.id = id := by
  obtain ⟨hread, hacceptable⟩ := PolicyRule.parse_eq_ok_iff.1 h
  obtain ⟨es, w, hes, hunder, hw⟩ := under_id_of_ofYaml hread
  obtain ⟨written, hwritten, -, rfl⟩ := idOf?_eq_some_iff.1 hid
  obtain rfl := eq_of_under hes hunder hw hwritten
  rw [trimmed_of_isStrictId hacceptable.strictId]
  exact ⟨hwritten, rfl⟩

theorem mergedRules_of_nothing (accs : List (String × Value)) :
    List.Forall₂ (fun id v => latest? id accs = some v) (accs.map Prod.fst).eraseDups
      (mergedRules accs []) := by
  have hnew : newIds accs [] = (accs.map Prod.fst).eraseDups := by simp [newIds]
  have hmem : ∀ id ∈ newIds accs [], (latest? id accs).isSome :=
    fun id hid => latest?_isSome_iff.2 (mem_newIds_iff.1 hid).1
  rw [mergedRules, replaced, List.map_nil, List.nil_append, ← hnew]
  generalize newIds accs [] = ids at hmem
  induction ids with
  | nil => exact .nil
  | cons id ids ih =>
    obtain ⟨hid, hrest⟩ := List.forall_mem_cons.1 hmem
    obtain ⟨v, hv⟩ := Option.isSome_iff_exists.1 hid
    rw [List.filterMap_cons, hv]
    exact .cons hv (ih hrest)

theorem exists_rules_of_accepted {ids : List String} {entries batch : List Value}
    (h : List.Forall₂ (fun id v => (id, v) ∈ accepted (.strict s) batch) ids entries) :
    ∃ rules, List.Forall₂ (fun v p => PolicyRule.parse s v = .ok p) entries rules ∧
      rules.map PolicyRule.id = ids ∧ entries.map idOf? = ids.map some := by
  induction h with
  | nil => exact ⟨[], .nil, rfl, rfl⟩
  | cons hv _ ih =>
    obtain ⟨rules, hrules, hids, hknown⟩ := ih
    obtain ⟨-, hid, hcheck⟩ := mem_accepted_iff.1 hv
    obtain ⟨p, hp⟩ := exists_parse_of_check hcheck
    refine ⟨p :: rules, .cons hp hrules, ?_, ?_⟩
    · rw [List.map_cons, (id_of_accepted hid hp).2, hids]
    · rw [List.map_cons, List.map_cons, hid, hknown]

/-- Strict merges into the empty rule-set never fail. After any number of them every entry is a
candidate that the strict schema accepts, no id is repeated, and the ids are all that were ever
accepted, in the order in which they first were. -/
theorem strict_mergeAll (s : Check.Settings) (days : List (String × List Value)) :
    ∃ document entries rules,
      mergeAll (.strict s) emptyDocument days = .ok document ∧ HoldsRules document entries ∧
      List.Forall₂ (fun v p => PolicyRule.parse s v = .ok p) entries rules ∧
      entries.map idOf? = (rules.map PolicyRule.id).map some ∧
      (rules.map PolicyRule.id).Nodup ∧
      rules.map PolicyRule.id =
        ((accepted (.strict s) (days.flatMap Prod.snd)).map Prod.fst).eraseDups := by
  have hempty : HoldsRules emptyDocument [] := rfl
  obtain ⟨document, hmerge, hholds⟩ := mergeAll_holdsRules (a := .strict s) hempty days
  have hentries := (mergedRules_of_nothing (accepted (.strict s) (days.flatMap Prod.snd))).imp
    fun _ _ => mem_of_latest?
  obtain ⟨rules, hrules, hids, hknown⟩ := exists_rules_of_accepted hentries
  refine ⟨document, _, rules, hmerge, hholds, hrules, ?_, ?_, hids⟩
  · rw [hids, hknown]
  · rw [hids]
    exact nodup_eraseDups _

end Strict

end StorePolicy.Merge

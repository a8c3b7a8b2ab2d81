import Mathlib.Data.List.Range
import StorePolicy.Proofs.Merge.Composition

/-!
# What a merge reports

A report is reckoned candidate by candidate, against rules that change on the way and against the
lists as they are so far. What it holds in the end can be said from the old rules and the batch
alone: the accepted ids that no old entry has, those that some old entry has, and each candidate
that is not accepted with its position. The invariant behind this is that what is still to be
listed are the ids that are neither listed already nor new to the rules.
-/
namespace StorePolicy.Merge

def heldIds (accs : List (String × Value)) (old : List Value) : List String :=
  ((accs.map Prod.fst).filter fun id => old.any (Progress.holdsId id)).eraseDups

def rejections (a : Acceptance) (index : Nat) (batch : List Value) : List Rejection :=
  (batch.zipIdx index).filterMap fun e =>
    (refusal? a e.1).map fun reason => ⟨e.2, idOf? e.1, reason⟩

section Lists

variable {a : Acceptance} {accs : List (String × Value)} {old batch : List Value} {index : Nat}

theorem mem_heldIds_iff {id : String} :
    id ∈ heldIds accs old ↔ id ∈ accs.map Prod.fst ∧ old.any (Progress.holdsId id) = true := by
  simp [heldIds, List.mem_eraseDups]

theorem nodup_newIds_append_heldIds (accs : List (String × Value)) (old : List Value) :
    (newIds accs old ++ heldIds accs old).Nodup := by
  refine List.nodup_append.2 ⟨nodup_eraseDups _, nodup_eraseDups _, ?_⟩
  intro id hnew k hheld heq
  obtain ⟨-, habsent⟩ := mem_newIds_iff.1 hnew
  obtain ⟨-, hheld⟩ := mem_heldIds_iff.1 hheld
  rw [heq, hheld] at habsent
  cases habsent

theorem length_mergedRules (accs : List (String × Value)) (old : List Value) :
    (mergedRules accs old).length = old.length + (newIds accs old).length := by
  have hlatest : ∀ id ∈ newIds accs old, (latest? id accs).isSome :=
    fun id hid => latest?_isSome_iff.2 (mem_newIds_iff.1 hid).1
  rw [mergedRules, List.length_append, replaced, List.length_map,
    List.length_filterMap_eq_countP, List.countP_eq_length.2 hlatest]

theorem rejections_cons (c : Value) (rest : List Value) :
    rejections a index (c :: rest) =
      ((refusal? a c).map fun reason => ⟨index, idOf? c, reason⟩).toList ++
        rejections a (index + 1) rest := by
  rw [rejections, List.zipIdx_cons, List.filterMap_cons]
  cases refusal? a c <;> rfl

theorem mem_rejections_iff {r : Rejection} :
    r ∈ rejections a 0 batch ↔
      ∃ c, batch[r.index]? = some c ∧ r.id = idOf? c ∧ refusal? a c = some r.reason := by
  simp only [rejections, List.mem_filterMap, Prod.exists, Option.map_eq_some_iff]
  constructor
  · intro h
    obtain ⟨c, i, hc, reason, hreason, rfl⟩ := h
    exact ⟨c, List.mk_mem_zipIdx_iff_getElem?.1 hc, rfl, hreason⟩
  · intro h
    obtain ⟨c, hc, hid, hreason⟩ := h
    exact ⟨c, r.index, List.mk_mem_zipIdx_iff_getElem?.2 hc, r.reason, hreason, by rw [← hid]⟩

theorem rejections_ascending (a : Acceptance) (index : Nat) (batch : List Value) :
    ((rejections a index batch).map (·.index)).Pairwise (· < ·) := by
  have hpositions : ((batch.zipIdx index).map Prod.snd).Pairwise (· < ·) := by
    rw [List.zipIdx_map_snd]
    exact List.pairwise_lt_range' 1
  rw [List.pairwise_map] at hpositions ⊢
  refine hpositions.filterMap _ ?_
  intro e e' hlt r hr r' hr'
  obtain ⟨reason, -, rfl⟩ := Option.map_eq_some_iff.1 hr
  obtain ⟨reason', -, rfl⟩ := Option.map_eq_some_iff.1 hr'
  exact hlt

end Lists

namespace Progress

def awaits (p : Progress) (id : String) : Bool :=
  p.rules.any (holdsId id) && !(p.updated.contains id || p.added.contains id)

/-- The ids that a run has yet to report as updated. -/
def unlisted (p : Progress) (accs : List (String × Value)) : List String :=
  ((accs.map Prod.fst).filter p.awaits).eraseDups

theorem unlisted_start (accs : List (String × Value)) (old : List Value) :
    (start old).unlisted accs = heldIds accs old := by
  have hawaits : (start old).awaits = fun id => old.any (holdsId id) := by
    funext id
    simp [awaits, start]
  rw [unlisted, hawaits, heldIds]

section Accept

variable {p : Progress} {id : String} {c : Value} {accs : List (String × Value)}

theorem awaits_accept (hc : idOf? c = some id) (k : String) :
    (p.accept id c).awaits k = (p.awaits k && k != id) := by
  have hother : k ≠ id → holdsId k c = false := by
    intro hk
    simp [holdsId, hc, hk.symm]
  unfold accept
  split
  · simp only [awaits, replace, any_holdsId_map hc]
    by_cases hk : k = id
    · subst hk
      cases hlisted : p.updated.contains k || p.added.contains k with
      | true => simp only [if_true, hlisted, Bool.not_true, Bool.and_false, Bool.false_and]
      | false => simp
    · split <;> simp [hk]
  · next hold =>
    by_cases hk : k = id
    · simp [awaits, append, hk]
    · simp [awaits, append, hk, hother hk]

theorem updated_accept (p : Progress) (id : String) (c : Value) :
    (p.accept id c).updated = p.updated ++ if p.awaits id then [id] else [] := by
  unfold accept awaits
  cases p.rules.any (holdsId id) with
  | true => cases hlisted : p.updated.contains id || p.added.contains id <;> simp_all [replace]
  | false => simp [append]

theorem unlisted_cons (hc : idOf? c = some id) (p : Progress) :
    p.unlisted ((id, c) :: accs) =
      (if p.awaits id then [id] else []) ++ (p.accept id c).unlisted accs := by
  have hrest : ((accs.map Prod.fst).filter (p.accept id c).awaits) =
      ((accs.map Prod.fst).filter p.awaits).filter fun k => k != id := by
    rw [List.filter_filter]
    apply List.filter_congr
    intro k _
    rw [awaits_accept hc, Bool.and_comm]
  rw [unlisted, unlisted, hrest, List.map_cons]
  cases hid : p.awaits id with
  | true =>
    rw [List.filter_cons_of_pos hid, List.eraseDups_cons]
    rfl
  | false =>
    have hkept : ((accs.map Prod.fst).filter p.awaits).filter (fun k => k != id) =
        (accs.map Prod.fst).filter p.awaits := by
      rw [List.filter_eq_self]
      intro k hk
      obtain ⟨-, hk⟩ := List.mem_filter.1 hk
      rw [bne_iff_ne]
      rintro rfl
      rw [hid] at hk
      cases hk
    rw [List.filter_cons_of_neg (by simp [hid]), hkept]
    rfl

end Accept

theorem run_updated (a : Acceptance) (index : Nat) (p : Progress) (batch : List Value) :
    (run a index p batch).value.updated = p.updated ++ p.unlisted (accepted a batch) := by
  induction batch generalizing index p with
  | nil => simp [run, accepted, unlisted]
  | cons c rest ih =>
    rw [run_cons_value, ih]
    cases hc : acceptedAs? a c with
    | none =>
      obtain ⟨reason, hstep⟩ := step_value_of_rejected hc
      have haccs : accepted a (c :: rest) = accepted a rest := by simp [accepted, hc]
      rw [hstep, haccs]
      rfl
    | some e =>
      obtain ⟨id, v⟩ := e
      obtain ⟨rfl, hid, -⟩ := acceptedAs?_eq_some_iff.1 hc
      have haccs : accepted a (v :: rest) = (id, v) :: accepted a rest := by simp [accepted, hc]
      rw [step_value_of_accepted hc, haccs, unlisted_cons hid, updated_accept, List.append_assoc]

theorem accept_rejected (p : Progress) (id : String) (c : Value) :
    (p.accept id c).rejected = p.rejected := by
  unfold accept
  split <;> rfl

theorem run_rejected (a : Acceptance) (index : Nat) (p : Progress) (batch : List Value) :
    (run a index p batch).value.rejected = p.rejected ++ rejections a index batch := by
  induction batch generalizing index p with
  | nil => simp [run, rejections]
  | cons c rest ih =>
    rw [run_cons_value, ih, rejections_cons]
    cases hc : refusal? a c with
    | some reason =>
      rw [step_value_of_refusal hc]
      simp [reject]
    | none =>
      have hsome : acceptedAs? a c ≠ none := by
        rw [ne_eq, ← refusal?_isSome_iff, hc]
        exact Bool.false_ne_true
      obtain ⟨e, he⟩ := Option.ne_none_iff_exists'.1 hsome
      rw [step_value_of_accepted he, accept_rejected]
      rfl

end Progress

/-- What a report says of a batch that turned the old entries into the new ones. -/
structure Accounts (a : Acceptance) (batch old new : List Value) (report : MergeReport) : Prop where
  added : report.added = newIds (accepted a batch) old
  updated : report.updated = heldIds (accepted a batch) old
  apart : (report.added ++ report.updated).Nodup
  rejected : ∀ i, i ∈ report.rejected.map (·.index) ↔
    ∃ c, batch[i]? = some c ∧ acceptedAs? a c = none
  ascending : (report.rejected.map (·.index)).Pairwise (· < ·)
  reasons : ∀ r ∈ report.rejected,
    ∃ c, batch[r.index]? = some c ∧ r.id = idOf? c ∧ refusal? a c = some r.reason
  total : report.total = new.length
  grown : report.total = old.length + report.added.length

theorem accounts_run (a : Acceptance) (batch old : List Value) :
    Accounts a batch old (mergedRules (accepted a batch) old)
      (Progress.run a 0 (.start old) batch).value.report := by
  have hadded : (Progress.run a 0 (.start old) batch).value.report.added =
      newIds (accepted a batch) old := Progress.run_added a 0 (.start old) batch
  have hupdated : (Progress.run a 0 (.start old) batch).value.report.updated =
      heldIds (accepted a batch) old := by
    rw [← Progress.unlisted_start]
    exact Progress.run_updated a 0 (.start old) batch
  have hrejected : (Progress.run a 0 (.start old) batch).value.report.rejected =
      rejections a 0 batch := Progress.run_rejected a 0 (.start old) batch
  have htotal : (Progress.run a 0 (.start old) batch).value.report.total =
      (mergedRules (accepted a batch) old).length :=
    congrArg List.length (Progress.run_rules a 0 (.start old) batch)
  refine ⟨hadded, hupdated, ?_, fun i => ?_, ?_, fun r hr => ?_, htotal, ?_⟩
  · rw [hadded, hupdated]
    exact nodup_newIds_append_heldIds _ _
  · rw [hrejected, List.mem_map]
    constructor
    · intro h
      obtain ⟨r, hr, rfl⟩ := h
      obtain ⟨c, hc, -, hreason⟩ := mem_rejections_iff.1 hr
      exact ⟨c, hc, refusal?_isSome_iff.1 (by rw [hreason]; rfl)⟩
    · intro h
      obtain ⟨c, hc, hnone⟩ := h
      obtain ⟨reason, hreason⟩ := Option.isSome_iff_exists.1 (refusal?_isSome_iff.2 hnone)
      exact ⟨⟨i, idOf? c, reason⟩, mem_rejections_iff.2 ⟨c, hc, rfl, hreason⟩, rfl⟩
  · rw [hrejected]
    exact rejections_ascending a 0 batch
  · exact mem_rejections_iff.1 (hrejected ▸ hr)
  · rw [htotal, hadded, length_mergedRules]

theorem Accounts.mem_reported_iff {a : Acceptance} {batch old new : List Value}
    {report : MergeReport} (h : Accounts a batch old new report) {id : String} :
    id ∈ report.added ++ report.updated ↔ id ∈ (accepted a batch).map Prod.fst := by
  rw [h.added, h.updated, List.mem_append, mem_newIds_iff, mem_heldIds_iff]
  cases old.any (Progress.holdsId id) <;> simp

theorem Accounts.accepted_eq_zero_iff {a : Acceptance} {batch old new : List Value}
    {report : MergeReport} (h : Accounts a batch old new report) :
    report.accepted = 0 ↔ accepted a batch = [] := by
  rw [MergeReport.accepted, ← List.length_append, List.length_eq_zero_iff,
    List.eq_nil_iff_forall_not_mem]
  simp only [h.mem_reported_iff]
  rw [← List.eq_nil_iff_forall_not_mem, List.map_eq_nil_iff]

theorem date_of_merged {document : Value} (h : Mergeable document)
    (accs : List (String × Value)) (today : String) :
    (withEntries (mergedEntries accs today (baseEntries document)) (base document)).get? dateKey =
      if accs = [] then (base document).get? dateKey else some (.str today) := by
  rw [Value.get?, entries?_withEntries, Option.bind_some, (merged_mergedEntries _ _ _).date,
    Value.get?, h.base_entries.1, Option.bind_some]

theorem exists_accounts (a : Acceptance) (today : String) {document : Value}
    (h : Mergeable document) (batch : List Value) :
    ∃ new report, (candidates a today document batch).value = .ok (new, report) ∧
      HoldsRules new (mergedRules (accepted a batch) (rulesOf (baseEntries document))) ∧
      Accounts a batch (rulesOf (baseEntries document))
        (mergedRules (accepted a batch) (rulesOf (baseEntries document))) report := by
  have hmerge := candidates_eq h a today batch
  exact ⟨_, _, hmerge, (merged_document hmerge).2, accounts_run a batch _⟩

/-- The report of a merge accounts for every candidate of its batch, and the date of the document
is another one only if something was accepted. An empty document counts as the empty rule-set. -/
theorem candidates_report (a : Acceptance) (today : String) {document : Value}
    (h : Mergeable document) (batch : List Value) :
    ∃ new report rules, (candidates a today document batch).value = .ok (new, report) ∧
      HoldsRules new rules ∧
      Accounts a batch (rulesOf (baseEntries document)) rules report ∧
      new.get? dateKey =
        if report.accepted = 0 then (base document).get? dateKey else some (.str today) := by
  obtain ⟨new, report, hmerge, hrules, haccounts⟩ := exists_accounts a today h batch
  refine ⟨new, report, _, hmerge, hrules, haccounts, ?_⟩
  rw [(merged_document hmerge).1, date_of_merged h]
  simp only [haccounts.accepted_eq_zero_iff]

theorem candidates_report_of_repeated_ids :
    let rule (id title : String) : Value := .map [(.str "id", .str id), (.str "title", .str title),
      (.str "description", .str "d"), (.str "category", .str "c"), (.str "conditions", .seq [])]
    let document : Value := .map [(.str "rules", .seq [rule "A" "old", rule " A" "old"])]
    let batch := [rule "B" "new", .null, rule "A" "new", rule " B " "last",
      .map [(.str "id", .str "A")], rule "A" "last"]
    Mergeable document ∧ ∃ new report rules,
      (candidates (.lenient 1) "2024-06-01" document batch).value = .ok (new, report) ∧
      HoldsRules new rules ∧
      Accounts (.lenient 1) batch (rulesOf (baseEntries document)) rules report ∧
      new.get? dateKey =
        if report.accepted = 0 then (base document).get? dateKey else some (.str "2024-06-01") := by
  intro rule document batch
  have h : HoldsRules document [rule "A" "old", rule " A" "old"] := rfl
  exact ⟨h.mergeable, candidates_report (.lenient 1) "2024-06-01" h.mergeable batch⟩

end StorePolicy.Merge

import Mathlib.Data.List.Basic
import StorePolicy.Merge

/-!
# The closed form of a merge

A merge goes through its batch candidate by candidate. Its outcome can be said at once: every
old entry gives way to the last accepted candidate with its id, and the ids that are new follow in
the order in which they were first accepted, each once and again with the last candidate. The
invariant behind this is that accepting one candidate and then taking the closed form of the
rest is the closed form of both.
-/
namespace StorePolicy.Merge

def acceptedAs? (a : Acceptance) (candidate : Value) : Option (String × Value) :=
  match idOf? candidate with
  | none => none
  | some id =>
    match a.check candidate with
    | .ok () => some (id, candidate)
    | .error _ => none

def accepted (a : Acceptance) (batch : List Value) : List (String × Value) :=
  batch.filterMap (acceptedAs? a)

def refusal? (a : Acceptance) (candidate : Value) : Option String :=
  match idOf? candidate with
  | none => some "missing id"
  | some _ =>
    match a.check candidate with
    | .ok () => none
    | .error reason => some reason

def latest? (id : String) : List (String × Value) → Option Value
  | [] => none
  | (k, v) :: rest => (latest? id rest).or (if k = id then some v else none)

/-- Every entry gives way to the last candidate with its id. -/
def replaced (accs : List (String × Value)) (old : List Value) : List Value :=
  old.map fun v => ((idOf? v).bind fun id => latest? id accs).getD v

def newIds (accs : List (String × Value)) (old : List Value) : List String :=
  ((accs.map Prod.fst).filter fun id => !old.any (Progress.holdsId id)).eraseDups

def mergedRules (accs : List (String × Value)) (old : List Value) : List Value :=
  replaced accs old ++ (newIds accs old).filterMap fun id => latest? id accs

theorem mergedRules_nil (old : List Value) : mergedRules [] old = old := by
  have hreplaced : replaced [] old = old := by simp [replaced, latest?]
  simp [mergedRules, newIds, hreplaced]

theorem exists_parse_of_check {s : Check.Settings} {v : Value}
    (h : (Acceptance.strict s).check v = .ok ()) : ∃ p, PolicyRule.parse s v = .ok p := by
  cases hparse : PolicyRule.parse s v with
  | ok p => exact ⟨p, rfl⟩
  | error f => simp [Acceptance.check, hparse] at h

theorem acceptedAs?_eq_some_iff {a : Acceptance} {c : Value} {id : String} {v : Value} :
    acceptedAs? a c = some (id, v) ↔ v = c ∧ idOf? c = some id ∧ a.check c = .ok () := by
  unfold acceptedAs?
  cases hid : idOf? c with
  | none => simp
  | some k =>
    cases a.check c with
    | error reason => simp
    | ok u => simp [and_comm, eq_comm]

theorem refusal?_isSome_iff {a : Acceptance} {c : Value} :
    (refusal? a c).isSome ↔ acceptedAs? a c = none := by
  unfold refusal? acceptedAs?
  cases idOf? c with
  | none => simp
  | some id => cases a.check c <;> simp

theorem mem_accepted_iff {a : Acceptance} {batch : List Value} {id : String} {v : Value} :
    (id, v) ∈ accepted a batch ↔ v ∈ batch ∧ idOf? v = some id ∧ a.check v = .ok () := by
  simp only [accepted, List.mem_filterMap, acceptedAs?_eq_some_iff]
  constructor
  · intro h
    obtain ⟨c, hc, rfl, hid, hcheck⟩ := h
    exact ⟨hc, hid, hcheck⟩
  · intro h
    obtain ⟨hv, hid, hcheck⟩ := h
    exact ⟨v, hv, rfl, hid, hcheck⟩

theorem mem_of_latest? {id : String} {accs : List (String × Value)} {v : Value}
    (h : latest? id accs = some v) : (id, v) ∈ accs := by
  induction accs with
  | nil => simp [latest?] at h
  | cons e accs ih =>
    obtain ⟨k, w⟩ := e
    rw [latest?, Option.or_eq_some_iff] at h
    rcases h with h | ⟨-, h⟩
    · exact List.mem_cons_of_mem _ (ih h)
    · obtain ⟨rfl, rfl⟩ : k = id ∧ w = v := by simpa using h
      exact List.mem_cons_self

theorem latest?_isSome_iff {id : String} {accs : List (String × Value)} :
    (latest? id accs).isSome ↔ id ∈ accs.map Prod.fst := by
  induction accs with
  | nil => simp [latest?]
  | cons e accs ih =>
    obtain ⟨k, v⟩ := e
    by_cases hk : k = id
    · simp [latest?, hk]
    · have hk' : id ≠ k := Ne.symm hk
      simp [latest?, hk, hk', ih]

theorem latest?_cons_self (id : String) (c : Value) (accs : List (String × Value)) :
    latest? id ((id, c) :: accs) = some ((latest? id accs).getD c) := by
  cases h : latest? id accs <;> simp [latest?, h]

theorem latest?_cons_of_ne {id k : String} (h : k ≠ id) (c : Value)
    (accs : List (String × Value)) : latest? k ((id, c) :: accs) = latest? k accs := by
  simp [latest?, h.symm]

namespace Progress

theorem holdsId_iff {id : String} {v : Value} : holdsId id v = true ↔ idOf? v = some id := by
  simp [holdsId]

theorem ne_of_not_holdsId {id k : String} {v : Value} (h : ¬holdsId id v = true)
    (hv : idOf? v = some k) : k ≠ id := by
  intro heq
  exact h (holdsId_iff.2 (heq ▸ hv))

theorem accept_rules (p : Progress) (id : String) (c : Value) :
    (p.accept id c).rules =
      if p.rules.any (holdsId id) then p.rules.map fun v => if holdsId id v then c else v
      else p.rules ++ [c] := by
  unfold accept
  split <;> rfl

theorem accept_accepted_pos (p : Progress) (id : String) (c : Value) :
    0 < (p.accept id c).report.accepted := by
  unfold accept
  split
  · cases hu : p.updated.contains id || p.added.contains id with
    | false =>
      simp only [replace, hu, report, MergeReport.accepted, Bool.false_eq_true, if_false,
        List.length_append, List.length_singleton]
      omega
    | true =>
      have hlen : 0 < p.added.length + p.updated.length := by
        rcases Bool.or_eq_true_iff.1 hu with h | h
        · have := List.length_pos_of_mem (List.contains_iff_mem.1 h)
          omega
        · have := List.length_pos_of_mem (List.contains_iff_mem.1 h)
          omega
      simpa only [replace, hu, if_true, report, MergeReport.accepted] using hlen
  · simp only [append, report, MergeReport.accepted, List.length_append, List.length_singleton]
    omega

theorem accepted_le_accept (p : Progress) (id : String) (c : Value) :
    p.report.accepted ≤ (p.accept id c).report.accepted := by
  unfold accept replace append report MergeReport.accepted
  split
  · split <;> simp
  · simp

end Progress

section Step

variable {id : String} {c : Value} {accs : List (String × Value)} {old : List Value}

theorem any_holdsId_map (hc : idOf? c = some id) (k : String) (old : List Value) :
    (old.map fun v => if Progress.holdsId id v then c else v).any (Progress.holdsId k) =
      old.any (Progress.holdsId k) := by
  induction old with
  | nil => rfl
  | cons v old ih =>
    simp only [List.map_cons, List.any_cons, ih]
    split
    · next h =>
      have hv := Progress.holdsId_iff.1 h
      simp [Progress.holdsId, hv, hc]
    · rfl

theorem replaced_map (hc : idOf? c = some id) (old : List Value) :
    replaced accs (old.map fun v => if Progress.holdsId id v then c else v) =
      replaced ((id, c) :: accs) old := by
  simp only [replaced, List.map_map]
  apply List.map_congr_left
  intro v _
  simp only [Function.comp_apply]
  by_cases h : Progress.holdsId id v
  · have hv := Progress.holdsId_iff.1 h
    simp [h, hc, hv, latest?_cons_self]
  · rw [if_neg h]
    cases hv : idOf? v with
    | none => rfl
    | some k =>
      simp [latest?_cons_of_ne (Progress.ne_of_not_holdsId h hv)]

theorem replaced_of_absent (h : old.any (Progress.holdsId id) = false) :
    replaced ((id, c) :: accs) old = replaced accs old := by
  apply List.map_congr_left
  intro v hv
  cases hid : idOf? v with
  | none => rfl
  | some k =>
    have hk := Progress.ne_of_not_holdsId (List.any_eq_false.1 h v hv) hid
    simp [latest?_cons_of_ne hk]

theorem filterMap_latest?_cons {ids : List String} (h : id ∉ ids) :
    (ids.filterMap fun k => latest? k ((id, c) :: accs)) = ids.filterMap fun k => latest? k accs := by
  apply List.filterMap_congr
  intro k hk
  have hne : k ≠ id := fun hki => h (hki ▸ hk)
  exact latest?_cons_of_ne hne c accs

theorem mem_newIds_iff {k : String} :
    k ∈ newIds accs old ↔ k ∈ accs.map Prod.fst ∧ old.any (Progress.holdsId k) = false := by
  simp [newIds, List.mem_eraseDups]

theorem newIds_cons_of_held (hc : idOf? c = some id) (h : old.any (Progress.holdsId id) = true) :
    newIds ((id, c) :: accs) old =
      newIds accs (old.map fun v => if Progress.holdsId id v then c else v) := by
  simp only [newIds, any_holdsId_map hc, List.map_cons]
  rw [List.filter_cons_of_neg (by simp [h])]

theorem newIds_cons_of_absent (hc : idOf? c = some id) (h : old.any (Progress.holdsId id) = false) :
    newIds ((id, c) :: accs) old = id :: newIds accs (old ++ [c]) := by
  have hc' : ∀ k, Progress.holdsId k c = (id == k) := by simp [Progress.holdsId, hc]
  simp only [newIds, List.map_cons, List.any_append, List.any_cons, List.any_nil, hc']
  rw [List.filter_cons_of_pos (by simp [h]), List.eraseDups_cons, List.filter_filter]
  congr 3
  funext k
  cases old.any (Progress.holdsId k) <;> simp [BEq.comm]

theorem mergedRules_cons (hc : idOf? c = some id) (p : Progress) :
    mergedRules ((id, c) :: accs) p.rules = mergedRules accs (p.accept id c).rules := by
  rw [Progress.accept_rules]
  cases hold : p.rules.any (Progress.holdsId id) with
  | true =>
    have hid : id ∉ newIds ((id, c) :: accs) p.rules := by simp [mem_newIds_iff, hold]
    rw [if_pos rfl, mergedRules, mergedRules, replaced_map hc, filterMap_latest?_cons hid,
      newIds_cons_of_held hc hold]
  | false =>
    have hid : id ∉ newIds accs (p.rules ++ [c]) := by
      simp [mem_newIds_iff, Progress.holdsId, hc]
    rw [if_neg (by simp), mergedRules, mergedRules, newIds_cons_of_absent hc hold,
      List.filterMap_cons, latest?_cons_self, filterMap_latest?_cons hid, replaced_of_absent hold]
    simp [replaced, hc]

end Step

namespace Progress

variable {a : Acceptance} {index : Nat} {p : Progress} {c : Value}

theorem step_value_of_refusal {reason : String} (h : refusal? a c = some reason) :
    (p.step a index c).value = p.reject ⟨index, idOf? c, reason⟩ := by
  unfold step
  cases hid : idOf? c with
  | none =>
    obtain rfl : "missing id" = reason := by simpa [refusal?, hid] using h
    rfl
  | some id =>
    cases hcheck : a.check c with
    | error cause =>
      obtain rfl : cause = reason := by simpa [refusal?, hid, hcheck] using h
      rfl
    | ok u => simp [refusal?, hid, hcheck] at h

theorem step_value_of_rejected (h : acceptedAs? a c = none) :
    ∃ reason, (p.step a index c).value = p.reject ⟨index, idOf? c, reason⟩ := by
  obtain ⟨reason, hreason⟩ := Option.isSome_iff_exists.1 (refusal?_isSome_iff.2 h)
  exact ⟨reason, step_value_of_refusal hreason⟩

theorem step_value_of_accepted {id : String} {v : Value} (h : acceptedAs? a c = some (id, v)) :
    (p.step a index c).value = p.accept id v := by
  obtain ⟨rfl, hid, hcheck⟩ := acceptedAs?_eq_some_iff.1 h
  simp [step, hid, hcheck]

theorem run_cons_value (rest : List Value) :
    (run a index p (c :: rest)).value =
      (run a (index + 1) (p.step a index c).value rest).value := by
  simp [run]

/-- A whole run leaves the closed form of what it accepted. -/
theorem run_rules (a : Acceptance) (index : Nat) (p : Progress) (batch : List Value) :
    (run a index p batch).value.rules = mergedRules (accepted a batch) p.rules := by
  induction batch generalizing index p with
  | nil => exact (mergedRules_nil p.rules).symm
  | cons c rest ih =>
    rw [run_cons_value, ih]
    cases hc : acceptedAs? a c with
    | none =>
      obtain ⟨reason, hstep⟩ := step_value_of_rejected hc
      rw [hstep]
      simp [accepted, hc, reject]
    | some e =>
      obtain ⟨id, v⟩ := e
      obtain ⟨rfl, hid, -⟩ := acceptedAs?_eq_some_iff.1 hc
      rw [step_value_of_accepted hc, ← mergedRules_cons hid]
      simp [accepted, hc]

theorem accepted_le_run (a : Acceptance) (index : Nat) (p : Progress) (batch : List Value) :
    p.report.accepted ≤ (run a index p batch).value.report.accepted := by
  induction batch generalizing index p with
  | nil => exact Nat.le_refl _
  | cons c rest ih =>
    refine Nat.le_trans ?_ (ih (index + 1) (p.step a index c).value)
    cases hc : acceptedAs? a c with
    | none =>
      obtain ⟨reason, hstep⟩ := step_value_of_rejected hc
      rw [hstep]
      exact Nat.le_refl _
    | some e =>
      rw [step_value_of_accepted hc]
      exact accepted_le_accept p e.1 e.2

theorem run_accepted_pos_iff (a : Acceptance) (index : Nat) (p : Progress) (batch : List Value)
    (h : p.report.accepted = 0) :
    0 < (run a index p batch).value.report.accepted ↔ accepted a batch ≠ [] := by
  induction batch generalizing index p with
  | nil => simp [run, accepted, h]
  | cons c rest ih =>
    rw [run_cons_value]
    cases hc : acceptedAs? a c with
    | none =>
      obtain ⟨reason, hstep⟩ := step_value_of_rejected hc
      rw [hstep, ih _ (p.reject _) h]
      simp [accepted, hc]
    | some e =>
      have hpos := accept_accepted_pos p e.1 e.2
      have hle := accepted_le_run a (index + 1) (p.accept e.1 e.2) rest
      rw [step_value_of_accepted hc]
      simp only [accepted, List.filterMap_cons, hc, ne_eq, reduceCtorEq, not_false_eq_true, iff_true]
      omega

end Progress

end StorePolicy.Merge

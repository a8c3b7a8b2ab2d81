import StorePolicy.Proofs.Merge.Loadable
import StorePolicy.Proofs.Merge.Report
import StorePolicy.Proofs.Merge.Runs

/-!
# The ids that a merge stores

A report names a candidate by its id without surrounding blanks. The candidate itself is stored as
it is written, and rules are looked for by their ids as they are written. So a reported id is
stored if and only if the last candidate with this id writes it without blanks. No other entry
makes up for it, since a candidate takes the place of all entries that are known by its id. The
strict schema lets no other ids through.
-/
namespace StorePolicy.Merge

open Schema YamlValue

def Stored (id : String) (rules : List Value) : Prop := ∃ v ∈ rules, idField? v = some id

theorem idOf?_of_idField? {v w : Value} {id : String} (hv : idOf? v = some id)
    (hw : idField? w = some id) : idOf? w = some id := by
  obtain ⟨s, -, hblank, rfl⟩ := idOf?_eq_some_iff.1 hv
  refine idOf?_eq_some_iff.2 ⟨_, hw, ?_, (Text.trimmed_trimmed s).symm⟩
  rw [Text.blank_trimmed, hblank]

section Latest

variable {accs : List (String × Value)} {old : List Value} {id : String} {c : Value}

theorem eq_latest_of_mem_mergedRules (haccs : Listed accs) (hc : latest? id accs = some c)
    {v : Value} (hv : v ∈ mergedRules accs old) (hid : idOf? v = some id) : v = c := by
  rcases mem_mergedRules_iff.1 hv with ⟨u, -, rfl⟩ | ⟨k, -, hk⟩
  · rw [haccs.idOf?_successor] at hid
    exact successor_of_latest? hid hc
  · obtain rfl : k = id := Option.some_inj.1 ((haccs k v hk).symm.trans hid)
    exact Option.some_inj.1 (hk.symm.trans hc)

theorem stored_mergedRules_iff (haccs : Listed accs) (hc : latest? id accs = some c) :
    Stored id (mergedRules accs old) ↔ idField? c = some id := by
  constructor
  · intro h
    obtain ⟨v, hv, hid⟩ := h
    have hknown := idOf?_of_idField? (haccs id c hc) hid
    rwa [eq_latest_of_mem_mergedRules haccs hc hv hknown] at hid
  · exact fun h => ⟨c, mem_mergedRules_of_latest? hc, h⟩

end Latest

section Lookup

variable {document : Value} {rules : List Value} {s : RuleSet}

theorem HoldsRules.read_rules (h : HoldsRules document rules)
    (hread : RuleSet.ofYaml document = .ok s) :
    List.Forall₂ (fun v r => Rule.read dialect v = .ok r) rules s.rules := by
  obtain ⟨es, _, _, found, hes, -, -, -, hslot, rfl⟩ := RuleSet.ofYaml_eq_ok_iff.1 hread
  obtain ⟨es', list, hes', hlist, hitems⟩ := holdsRules_iff.1 h
  obtain rfl : es' = es := Option.some_inj.1 ((recordEntries?_of_entries? hes').symm.trans hes)
  have hrules := (read_rulesOf hslot (not_hidden_of_lookupKey hlist)).2
  rwa [rulesOf, hlist, Option.bind_some, hitems, Option.getD_some] at hrules

theorem exists_rule?_of_stored (h : HoldsRules document rules)
    (hread : RuleSet.ofYaml document = .ok s) {id : String} (hstored : Stored id rules) :
    ∃ r, s.rule? id = some r ∧ r.id = id := by
  obtain ⟨v, hv, hid⟩ := hstored
  have hwritten : writtenId? v ∈ (s.rules.map (·.id)).map some := by
    rw [← map_writtenId? (h.read_rules hread)]
    exact List.mem_map_of_mem hv
  simp only [List.map_map, List.mem_map, Function.comp_apply] at hwritten
  obtain ⟨r, hr, hrid⟩ := hwritten
  obtain rfl := eq_of_writtenId? hrid.symm hid
  have hfound : (s.rule? r.id).isSome := List.find?_isSome.2 ⟨r, hr, beq_self_eq_true r.id⟩
  obtain ⟨r', hr'⟩ := Option.isSome_iff_exists.1 hfound
  exact ⟨r', hr', eq_of_beq (List.find?_some hr' :)⟩

end Lookup

theorem idField?_of_strict {s : Check.Settings} {batch : List Value} {id : String} {c : Value}
    (hc : latest? id (accepted (.strict s) batch) = some c) : idField? c = some id := by
  obtain ⟨hid, hcheck⟩ := acceptedBy_accepted (.strict s) batch id c hc
  obtain ⟨p, hp⟩ := exists_parse_of_check hcheck
  exact (id_of_accepted hid hp).1

/-- A merge stores the id that it reports of a candidate exactly if the last candidate with this id
writes it without surrounding blanks, and always under the strict schema. A rule-set that is read
from the document finds a rule under every stored id. -/
theorem candidates_stored_iff (a : Acceptance) (today : String) {document : Value}
    (h : Mergeable document) (batch : List Value) :
    ∃ new report rules, (candidates a today document batch).value = .ok (new, report) ∧
      HoldsRules new rules ∧
      (∀ id ∈ report.added ++ report.updated,
        (Stored id rules ↔ (latest? id (accepted a batch)).bind idField? = some id)) ∧
      (∀ s, a = .strict s → ∀ id ∈ report.added ++ report.updated, Stored id rules) ∧
      ∀ s, RuleSet.ofYaml new = .ok s → ∀ id, Stored id rules →
        ∃ r, s.rule? id = some r ∧ r.id = id := by
  obtain ⟨new, report, hmerge, hrules, haccounts⟩ := exists_accounts a today h batch
  have hlisted := (acceptedBy_accepted a batch).listed
  have hlatest : ∀ id ∈ report.added ++ report.updated,
      ∃ c, latest? id (accepted a batch) = some c := by
    intro id hid
    have haccepted := haccounts.mem_reported_iff.1 hid
    exact Option.isSome_iff_exists.1 (latest?_isSome_iff.2 haccepted)
  refine ⟨new, report, _, hmerge, hrules, ?_, ?_, ?_⟩
  · intro id hid
    obtain ⟨c, hc⟩ := hlatest id hid
    rw [stored_mergedRules_iff hlisted hc, hc, Option.bind_some]
  · rintro s rfl id hid
    obtain ⟨c, hc⟩ := hlatest id hid
    exact (stored_mergedRules_iff hlisted hc).2 (idField?_of_strict hc)
  · exact fun s hread id hstored => exists_rule?_of_stored hrules hread hstored

theorem candidates_stored_iff_of_two_ids :
    let rule (id title : String) : Value := .map [(.str "id", .str id), (.str "title", .str title),
      (.str "description", .str "d"), (.str "category", .str "c"), (.str "conditions", .seq [])]
    let document : Value := .map [(.str "rules", .seq [rule " A" "old"])]
    let batch := [rule " A " "first", rule "B" "first", rule "A" "last", rule "B " "last"]
    accepted (.lenient 1) batch = [("A", rule " A " "first"), ("B", rule "B" "first"),
      ("A", rule "A" "last"), ("B", rule "B " "last")] ∧
    Mergeable document ∧ ∃ new report rules,
      (candidates (.lenient 1) "2024-06-01" document batch).value = .ok (new, report) ∧
      HoldsRules new rules ∧
      (∀ id ∈ report.added ++ report.updated,
        (Stored id rules ↔
          (latest? id (accepted (.lenient 1) batch)).bind idField? = some id)) ∧
      (∀ s, .lenient 1 = Acceptance.strict s → ∀ id ∈ report.added ++ report.updated,
        Stored id rules) ∧
      ∀ s, RuleSet.ofYaml new = .ok s → ∀ id, Stored id rules →
        ∃ r, s.rule? id = some r ∧ r.id = id := by
  intro rule document batch
  have h : HoldsRules document [rule " A" "old"] := rfl
  exact ⟨rfl, h.mergeable, candidates_stored_iff (.lenient 1) "2024-06-01" h.mergeable batch⟩

/-- A rule that is reported as added under an id that no entry has and under which nothing is
found. -/
theorem not_stored_of_blanks :
    let candidate : Value := .map [(.str "id", .str " NEW_1 "), (.str "title", .str "t"),
      (.str "description", .str "d"), (.str "category", .str "c"), (.str "conditions", .seq [])]
    ∃ new report s,
      (candidates (.lenient 1) "2024-06-01" emptyDocument [candidate]).value = .ok (new, report) ∧
      report.added = ["NEW_1"] ∧ HoldsRules new [candidate] ∧ ¬Stored "NEW_1" [candidate] ∧
      RuleSet.ofYaml new = .ok s ∧ s.rule? "NEW_1" = none := by
  intro candidate
  refine ⟨_, _, _, rfl, rfl, rfl, ?_, rfl, rfl⟩
  rintro ⟨v, hv, hid⟩
  obtain rfl := List.mem_singleton.1 hv
  revert hid
  decide

end StorePolicy.Merge

import StorePolicy.Proofs.Decode.Values
import StorePolicy.RuleSet.Codec

/-!
# How rule-sets are read

A rule-set is read from a mapping whose keys are texts and in which each of its three fields is
written at most once and as it should be. The fields are filled independently of each other, which
is an induction over the entries with one case for each field.
-/
namespace StorePolicy.RuleSet

open Schema YamlValue

theorem field?_version {s : String} (h : "version" = s) (d : Dialect Value) :
    field? (fields d) (.name s) = some (.of "version" false (·.version)
      (fun draft t => { draft with version := some t }) d.text) := by
  subst h
  rfl

theorem field?_lastUpdated {s : String} (h : "last_updated" = s) (d : Dialect Value) :
    field? (fields d) (.name s) = some (.of "last_updated" false (·.lastUpdated)
      (fun draft t => { draft with lastUpdated := some t }) d.text) := by
  subst h
  rfl

theorem field?_rules {s : String} (h : "rules" = s) (d : Dialect Value) :
    field? (fields d) (.name s) = some (.of "rules" false (·.rules)
      (fun draft rs => { draft with rules := some rs }) (d.list (Rule.read d))) := by
  subst h
  rfl

theorem field?_other {s : String} (hversion : "version" ≠ s) (hdate : "last_updated" ≠ s)
    (hrules : "rules" ≠ s) (d : Dialect Value) : field? (fields d) (.name s) = none := by
  simp [field?, fields, Field.of, Field.named, hversion, hdate, hrules]

theorem foldlM_take_eq_ok_iff {d : Dialect Value} {ps : List (String × Value)} {a b : Draft} :
    ps.foldlM (take d (fields d)) a = .ok b ↔
      Slot d.text (valuesOf ("version" == ·) ps) a.version b.version ∧
      Slot d.text (valuesOf ("last_updated" == ·) ps) a.lastUpdated b.lastUpdated ∧
      Slot (d.list (Rule.read d)) (valuesOf ("rules" == ·) ps) a.rules b.rules := by
  induction ps generalizing a with
  | nil =>
    obtain ⟨version, date, rules⟩ := a
    obtain ⟨version', date', rules'⟩ := b
    simp [valuesOf, Slot.nil_iff, pure, Except.pure, eq_comm]
  | cons p rest ih =>
    rw [valuesOf_cons, valuesOf_cons, valuesOf_cons]
    by_cases hversion : "version" = p.1
    · have hdate : ("last_updated" == p.1) = false := by
        rw [← hversion]
        rfl
      have hrules : ("rules" == p.1) = false := by
        rw [← hversion]
        rfl
      simp only [foldlM_take_of_eq_ok_iff (field?_version hversion d), ih, beq_iff_eq, hversion, hdate,
        hrules, if_true, Bool.false_eq_true, if_false, Slot.cons_iff]
      grind
    by_cases hdate : "last_updated" = p.1
    · have hrules : ("rules" == p.1) = false := by
        rw [← hdate]
        rfl
      simp only [foldlM_take_of_eq_ok_iff (field?_lastUpdated hdate d), ih, beq_iff_eq, hversion, hdate,
        hrules, if_true, Bool.false_eq_true, if_false, Slot.cons_iff]
      grind
    by_cases hrules : "rules" = p.1
    · simp only [foldlM_take_of_eq_ok_iff (field?_rules hrules d), ih, beq_iff_eq, hversion, hdate,
        hrules, if_true, if_false, Slot.cons_iff]
      grind
    · rw [foldlM_take_unnamed (field?_other hversion hdate hrules d), ih]
      simp [hversion, hdate, hrules]

theorem ofYaml_eq_ok_iff {v : Value} {s : RuleSet} :
    ofYaml v = .ok s ↔ ∃ es version date rules, recordEntries? v = some es ∧
      (∀ e ∈ es, e.1.asText?.isSome) ∧
      Slot text (under "version" es) none version ∧
      Slot text (under "last_updated" es) none date ∧
      Slot (dialect.list (Rule.read dialect)) (under "rules" es) none rules ∧
      s = ⟨version.getD defaultVersion, date.getD "", rules.getD []⟩ := by
  have hmissing : ∀ draft, missing? (fields dialect) draft = none := fun _ => rfl
  rw [ofYaml, read, read_eq_ok_iff]
  constructor
  · intro h
    obtain ⟨es, draft, hes, hkeys, hfill, -, rfl⟩ := h
    obtain ⟨h1, h2, h3⟩ := foldlM_take_eq_ok_iff.1 hfill
    rw [valuesOf_named hkeys] at h1 h2 h3
    exact ⟨es, _, _, _, hes, hkeys, h1, h2, h3, rfl⟩
  · intro h
    obtain ⟨es, version, date, rules, hes, hkeys, h1, h2, h3, rfl⟩ := h
    refine ⟨es, ⟨version, date, rules⟩, hes, hkeys, ?_, hmissing _, rfl⟩
    refine foldlM_take_eq_ok_iff.2 ?_
    rw [valuesOf_named hkeys, valuesOf_named hkeys, valuesOf_named hkeys]
    exact ⟨h1, h2, h3⟩

end StorePolicy.RuleSet

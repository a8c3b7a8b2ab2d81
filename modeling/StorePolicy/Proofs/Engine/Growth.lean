import Mathlib.Data.Bool.Basic
import Mathlib.Order.Lattice
import StorePolicy.Proofs.Check.Sandbox
import StorePolicy.Proofs.Engine.Outcome
import StorePolicy.Proofs.Files.Extension

/-!
# Checks in larger trees

A leaf that does not want its target to be absent is true only of what is there, and in a tree with
more files this is still there, at the same place and with the same bytes. All_of and any_of keep
the order of truths, so conditions of these parts stay true when files are added. For rules it is
the other way round: without some of the files, what is broken stays broken.
-/
namespace StorePolicy

theorem Logic.combine_mono {logic : Logic} (hlogic : logic ≠ .noneOf) {bs bs' : List Bool}
    (h : List.Forall₂ (· ≤ ·) bs bs') : logic.combine bs ≤ logic.combine bs' := by
  cases logic with
  | noneOf => exact absurd rfl hlogic
  | allOf =>
    simp only [combine]
    induction h with
    | nil => exact le_refl _
    | cons hb _ ih => exact inf_le_inf hb ih
  | anyOf =>
    simp only [combine]
    induction h with
    | nil => exact le_refl _
    | cons hb _ ih => exact sup_le_sup hb ih

namespace Condition

mutual
def isPositive : Condition → Bool
  | .composite logic checks => decide (logic ≠ .noneOf) && arePositive checks
  | .fileNotExists _ => false
  | .fileExists _ => true
  | .jsonPathExists _ _ => true
  | .jsonPathEquals _ _ _ => true
  | .jsonPathMatches _ _ _ => true
  | .yamlPathExists _ _ => true
  | .xmlPathExists _ _ => true
  | .patternInFile _ _ => true

def arePositive : List Condition → Bool
  | [] => true
  | c :: rest => isPositive c && arePositive rest
end

variable {s : Check.Settings} {t t' : FileTree} {root target : String} {c : Condition}

theorem exists_of_verdict {strategies : List Path.Strategy} (hc : c.target? = some target)
    (hpositive : c.isPositive = true) (h : c.verdict t strategies root = true) :
    t.exists? (Files.Location.join root target) = true := by
  by_contra habsent
  obtain rfl := (verdict_of_absent hc (Bool.eq_false_iff.2 habsent)).1 h
  cases hpositive

end Condition

namespace Check

open Condition

variable {s : Settings} {t t' : FileTree} {root target : String}

theorem inside_of_extended (h : t.ExtendedBy t')
    (hthere : t.exists? (Files.Location.join root target) = true)
    (hinside : inside t root target = true) : inside t' root target = true := by
  obtain ⟨base, hroot⟩ := exists_base_of_inside hinside
  obtain ⟨e, hstat⟩ := FileTree.exists_eq_true_iff.1 hthere
  obtain ⟨place, hplace, -⟩ := FileTree.stat_eq_ok_iff.1 hstat
  rw [← resolvesInside_value, resolvesInside_of_resolve hroot hplace] at hinside
  rw [← resolvesInside_value, resolvesInside_of_resolve (h.resolve hroot) (h.resolve hplace)]
  exact hinside

theorem leafTruth_le (h : t.ExtendedBy t') {c : Condition} (hc : c.target? = some target)
    (hpositive : c.isPositive = true) :
    leafTruth s t root target c ≤ leafTruth s t' root target c := by
  rw [Bool.le_iff_imp]
  intro htruth
  obtain ⟨hguard, hverdict⟩ := Bool.and_eq_true_iff.1 htruth
  have hthere := exists_of_verdict hc hpositive hverdict
  refine Bool.and_eq_true_iff.2 ⟨?_, by rwa [verdict_congr hc (h.stat hthere)]⟩
  rw [Bool.or_eq_true, Bool.and_eq_true] at hguard ⊢
  refine hguard.imp_right fun hstays => ?_
  exact ⟨hstays.1, inside_of_extended h hthere hstays.2⟩

-- by recursion on the tree: no composite in it negates
mutual
theorem truth_le (h : t.ExtendedBy t') {c : Condition} (hpositive : c.isPositive = true) :
    c.truth s t root ≤ c.truth s t' root := by
  cases c with
  | composite logic checks =>
    obtain ⟨hlogic, hchecks⟩ := Bool.and_eq_true_iff.1 hpositive
    rw [truth, truth]
    exact Logic.combine_mono (of_decide_eq_true hlogic) (truths_le h hchecks)
  | _ => exact leafTruth_le h rfl hpositive

theorem truths_le (h : t.ExtendedBy t') {cs : List Condition} (hpositive : arePositive cs = true) :
    List.Forall₂ (· ≤ ·) (truths s t root cs) (truths s t' root cs) := by
  cases cs with
  | nil => exact .nil
  | cons c rest =>
    obtain ⟨hc, hrest⟩ := Bool.and_eq_true_iff.1 hpositive
    exact .cons (truth_le h hc) (truths_le h hrest)
end

end Check

namespace Engine

open Files

variable {t t' : FileTree}

theorem broken_of_extended (h : t.ExtendedBy t') {s : Check.Settings} {root : String} {r : Rule}
    (hpositive : ∀ c ∈ r.conditions, c.isPositive = true) (hbroken : r.broken s t' root = true) :
    r.broken s t root = true := by
  obtain ⟨c, hc, hfails⟩ := List.any_eq_true.1 hbroken
  refine List.any_eq_true.2 ⟨c, hc, ?_⟩
  rw [Bool.or_eq_true, Bool.not_eq_true', Bool.not_eq_true'] at hfails ⊢
  refine hfails.imp_right fun hfalse => ?_
  have hle : c.truth s t root ≤ c.truth s t' root := Check.truth_le h (hpositive c hc)
  rw [hfalse] at hle
  exact Bool.eq_false_of_le_false hle

/-- With more files, conditions of parts that want nothing absent or false stay true, and so a rule
of such conditions that is broken is broken without the files. -/
theorem run_true_of_extendedBy (h : t.ExtendedBy t') (root : String) :
    (∀ s c k, c.isPositive = true → (Check.build s c).value = .ok k →
      (k.run t root).value = true → (k.run t' root).value = true) ∧
    ∀ e p r, (∀ c ∈ r.conditions, c.isPositive = true) →
      r ∈ (checkAll t' e root p).value → r ∈ (checkAll t e root p).value := by
  constructor
  · intro s c k hpositive hk htrue
    rw [Check.run_buildAt 1 c hk] at htrue ⊢
    exact Bool.le_iff_imp.1 (Check.truth_le h hpositive) htrue
  · intro e p r hpositive hr
    rw [checkAll_value, List.mem_filter, Bool.and_eq_true] at hr ⊢
    obtain ⟨hmem, hselected, hbroken⟩ := hr
    exact ⟨hmem, hselected, broken_of_extended h hpositive hbroken⟩

theorem run_true_of_one_more_file :
    let t : FileTree := ⟨[(["p"], .folder), (["p", "a"], .file ⟨#[]⟩)], []⟩
    let t' : FileTree := { t with entries := t.entries ++ [(["p", "b"], .file ⟨#[]⟩)] }
    let c : Condition := .composite .anyOf [.fileExists "b", .fileExists "a"]
    let k : Check :=
      .composite .anyOf [.guarded "b" (.presence true), .guarded "a" (.presence true)]
    let r : Rule := ⟨"A", .both, "t", "d", .major, "c", none, false, none, [.fileExists "c"]⟩
    let e : Engine := ⟨.usual, some ⟨none, .ofRules [r]⟩⟩
    t.ExtendedBy t' ∧
      (c.isPositive = true ∧ (Check.build .usual c).value = .ok k ∧
        (k.run t "p").value = true ∧ (k.run t' "p").value = true) ∧
      (∀ c ∈ r.conditions, c.isPositive = true) ∧
      r ∈ (checkAll t' e "p" .both).value ∧ r ∈ (checkAll t e "p" .both).value := by
  intro t t' c k r e
  have hextended : t.ExtendedBy t' := FileTree.extendedBy_append t _
  have hbuild : (Check.build .usual c).value = .ok k := rfl
  have hmoves : moves "p" = [.down "p"] ∧ moves "p/a" = [.down "p", .down "a"] ∧
      moves "p/c" = [.down "p", .down "c"] := by decide
  have hrefuses : refuses "p" = none ∧ refuses "p/a" = none ∧ refuses "p/c" = none := by
    decide
  have hrelative : Location.isAbsolute "p" = false ∧ Location.isAbsolute "p/a" = false ∧
      Location.isAbsolute "p/c" = false := by decide
  have hbytes : "p".utf8ByteSize = 1 ∧ "a".utf8ByteSize = 1 ∧ "c".utf8ByteSize = 1 :=
    ⟨rfl, rfl, rfl⟩
  have hjoin : Location.join "p" "a" = "p/a" ∧ Location.join "p" "c" = "p/c" := by decide
  obtain ⟨hroot, ha⟩ : t.resolve "p" = .ok ["p"] ∧ t.resolve "p/a" = .ok ["p", "a"] := by
    simp [FileTree.resolve, FileTree.follow, FileTree.start, FileTree.isFolderAt,
      FileTree.entry?, hmoves, hrefuses, hbytes, hrelative, t, List.lookup_cons, maxNameBytes,
      maxLinks]
  have hc : t'.resolve "p/c" = .error .notFound := by
    simp [FileTree.resolve, FileTree.follow, FileTree.start, FileTree.isFolderAt,
      FileTree.entry?, hmoves, hrefuses, hbytes, hrelative, t, t', List.lookup_cons, maxNameBytes,
      maxLinks]
  have hexists : t.exists? (Location.join "p" "a") = true := by
    rw [hjoin.1]
    exact FileTree.exists_eq_true_iff.2 ⟨.file ⟨#[]⟩, FileTree.stat_eq_ok_iff.2 ⟨_, ha, rfl⟩⟩
  have hinside : Condition.inside t "p" "a" = true := by
    rw [← Check.resolvesInside_value, Check.resolvesInside_of_resolve hroot (hjoin.1 ▸ ha)]
    decide
  have hleaf : Condition.leafTruth .usual t "p" "a" (.fileExists "a") = true := by
    have hcontained : Location.isContained "a" = true := by decide
    rw [Condition.leafTruth, hinside, hcontained, Condition.verdict, hexists]
    rfl
  have htrue : (k.run t "p").value = true := by
    rw [Check.run_buildAt 1 c hbuild]
    simp [c, Condition.truth, Condition.truths, Logic.combine, hleaf]
  have habsent : ∀ s : Check.Settings, (Condition.fileExists "c").truth s t' "p" = false := by
    intro s
    have hnone : t'.exists? (Location.join "p" "c") = false := by
      rw [hjoin.2, FileTree.exists?, FileTree.stat, hc]
      rfl
    rw [Check.truth_eq_leafTruth rfl, Condition.leafTruth, Condition.verdict, hnone, Bool.and_false]
  have hpositive : ∀ c ∈ r.conditions, c.isPositive = true := by decide
  have hbroken : r ∈ (checkAll t' e "p" .both).value := by
    have hselected : e.config.selects .both r = true := by decide
    rw [checkAll_value, List.mem_filter, hselected, Bool.true_and]
    refine ⟨List.mem_singleton_self r, List.any_eq_true.2 ⟨_, List.mem_singleton_self _, ?_⟩⟩
    rw [habsent, Bool.not_false, Bool.or_true]
  obtain ⟨hstays, hrules⟩ := run_true_of_extendedBy hextended "p"
  exact ⟨hextended, ⟨rfl, hbuild, htrue, hstays .usual c k rfl hbuild htrue⟩, hpositive, hbroken,
    hrules e .both r hpositive hbroken⟩

end Engine
end StorePolicy

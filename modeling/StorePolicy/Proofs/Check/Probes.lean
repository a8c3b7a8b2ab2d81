import Mathlib.Data.List.Forall2
import StorePolicy.Proofs.Check.Faults
import StorePolicy.Proofs.Check.Meaning

/-!
# The leaves of a check

A check has a leaf for every leaf of the condition that it was built from, in the same order. The
leaf of a target that escapes the sandbox by its text is a check that fails whatever the files
are; every other leaf asks its probe of its own target.
-/
namespace StorePolicy

namespace Check

open Condition

mutual
def leafChecks : Check → List Check
  | .composite _ checks => leafChecksOf checks
  | .probe target p => [.probe target p]
  | .guarded target p => [.guarded target p]
  | .escaped => [.escaped]

def leafChecksOf : List Check → List Check
  | [] => []
  | k :: rest => leafChecks k ++ leafChecksOf rest
end

/-- A check that asks the question of a leaf of its target. -/
def Settings.Asks (s : Settings) (leaf : Condition) (k : Check) : Prop :=
  ∃ target p, leaf.target? = some target ∧ probe? s leaf = .ok (some p) ∧
    k = if s.sandbox then .guarded target p else .probe target p

def Settings.Becomes (s : Settings) (leaf : Condition) (k : Check) : Prop :=
  if s.replaces leaf then k = .escaped else s.Asks leaf k

variable {s : Settings} {c : Condition} {k : Check}

theorem becomes_of_buildLeaf {target : String} (hc : c.target? = some target)
    (h : (buildLeaf s c target).value = .ok k) : s.Becomes c k ∧ k.leafChecks = [k] := by
  have hreplaces : s.replaces c = (s.sandbox && !Files.Location.isContained target) := by
    simp [Settings.replaces, hc]
  rw [Settings.Becomes, hreplaces]
  unfold buildLeaf at h
  split at h
  · next hescapes =>
    obtain rfl : Check.escaped = k := by simpa using h
    exact ⟨by rw [if_pos hescapes], rfl⟩
  · next hstays =>
    rw [if_neg hstays]
    cases hprobe : probe? s c with
    | error f => simp [hprobe] at h
    | ok o =>
      cases o with
      | none => exact absurd hprobe (probe?_ne_none hc)
      | some p =>
        obtain rfl : (if s.sandbox then Check.guarded target p else .probe target p) = k := by
          simpa [hprobe] using h
        refine ⟨⟨target, p, hc, hprobe, rfl⟩, ?_⟩
        cases s.sandbox <;> rfl

-- by recursion on the tree: a composite has the leaves of its children one after the other
mutual
theorem becomes_leaves (level : Nat) (c : Condition) {k : Check}
    (h : (buildAt s level c).value = .ok k) : List.Forall₂ s.Becomes c.leaves k.leafChecks := by
  cases c with
  | composite logic checks =>
    obtain ⟨-, built, hbuilt, rfl⟩ := buildAt_composite_eq_ok_iff.1 h
    exact becomes_leavesOf (level + 1) checks hbuilt
  | _ =>
    obtain ⟨hbecomes, hleaves⟩ := becomes_of_buildLeaf rfl (buildLeaf_of_buildAt rfl h)
    rw [hleaves]
    exact .cons hbecomes .nil

theorem becomes_leavesOf (level : Nat) (cs : List Condition) {ks : List Check}
    (h : (buildAll s level cs).value = .ok ks) :
    List.Forall₂ s.Becomes (leavesOf cs) (leafChecksOf ks) := by
  cases cs with
  | nil =>
    obtain rfl : [] = ks := by simpa [buildAll] using h
    exact .nil
  | cons c rest =>
    obtain ⟨k, built, hfirst, hrest, rfl⟩ := buildAll_cons_eq_ok_iff.1 h
    exact List.rel_append (becomes_leaves level c hfirst) (becomes_leavesOf level rest hrest)
end

theorem asks_leaves (hcontained : ∀ target ∈ c.targets, Files.Location.isContained target = true)
    (h : (build s c).value = .ok k) : List.Forall₂ s.Asks c.leaves k.leafChecks := by
  have hstays : ∀ leaf ∈ c.leaves, s.replaces leaf = false :=
    fun leaf hleaf => replaces_of_contained hcontained hleaf
  refine ((List.forall₂_and_left _ _).2 ⟨hstays, becomes_leaves 1 c h⟩).imp ?_
  intro leaf k h
  obtain ⟨hstay, hbecomes⟩ := h
  rwa [Settings.Becomes, hstay, if_neg Bool.false_ne_true] at hbecomes

theorem Settings.Asks.ne_escaped {leaf : Condition} (h : s.Asks leaf k) : k ≠ .escaped := by
  obtain ⟨target, p, -, -, rfl⟩ := h
  cases s.sandbox <;> simp

theorem escaped_not_mem_of_asks {ls : List Condition} {ks : List Check}
    (h : List.Forall₂ s.Asks ls ks) : .escaped ∉ ks := by
  induction h with
  | nil => exact List.not_mem_nil
  | cons hk _ ih => exact List.not_mem_cons_of_ne_of_not_mem hk.ne_escaped.symm ih

end Check
end StorePolicy

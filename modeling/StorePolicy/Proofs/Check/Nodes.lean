import StorePolicy.Proofs.Check.Sandbox

/-!
# Checks part by part

A check has the shape of the condition that it was built from. An address leads down from the top
by places among children, and where it leads to a part of the condition it leads to what that part
was built to. So the verdict of every part is its truth, whether or not a run asks it. When another
condition is put at an address, nothing but its truth has a part in the outcome.
-/
namespace StorePolicy

namespace Condition

def node? : Condition → List Nat → Option Condition
  | c, [] => some c
  | .composite _ checks, i :: path => checks[i]?.bind (·.node? path)
  | _, _ :: _ => none

def replaceAt : Condition → List Nat → Condition → Condition
  | _, [], e => e
  | .composite logic checks, i :: path, e =>
    .composite logic (checks.modify i (·.replaceAt path e))
  | c, _ :: _, _ => c

variable {c d e : Condition} {i : Nat} {path : List Nat}

@[simp] theorem node?_nil (c : Condition) : c.node? [] = some c := by
  cases c <;> rfl

@[simp] theorem replaceAt_nil (c e : Condition) : c.replaceAt [] e = e := by
  cases c <;> rfl

theorem node?_cons_eq_some_iff :
    c.node? (i :: path) = some d ↔ ∃ logic checks child, c = .composite logic checks ∧
      checks[i]? = some child ∧ child.node? path = some d := by
  cases c with
  | composite logic checks => simp [node?, Option.bind_eq_some_iff]
  | _ => simp [node?]

theorem node?_replaceAt (h : c.node? path = some d) (e : Condition) :
    (c.replaceAt path e).node? path = some e := by
  induction path generalizing c with
  | nil => simp
  | cons i path ih =>
    obtain ⟨logic, checks, child, rfl, hchild, hd⟩ := node?_cons_eq_some_iff.1 h
    refine node?_cons_eq_some_iff.2 ⟨logic, _, child.replaceAt path e, rfl, ?_, ih hd⟩
    simp [hchild]

theorem truth_replaceAt {s : Check.Settings} {t : FileTree} {root : String}
    (h : c.node? path = some d) (htruth : e.truth s t root = d.truth s t root) :
    (c.replaceAt path e).truth s t root = c.truth s t root := by
  induction path generalizing c with
  | nil =>
    obtain rfl : c = d := by simpa using h
    rw [replaceAt_nil, htruth]
  | cons i path ih =>
    obtain ⟨logic, checks, child, rfl, hchild, hd⟩ := node?_cons_eq_some_iff.1 h
    rw [replaceAt, truth, truth, truths_eq_map, truths_eq_map]
    congr 1
    apply List.ext_getElem?
    intro j
    rw [List.getElem?_map, List.getElem?_map, List.getElem?_modify]
    by_cases hj : i = j
    · subst hj
      simp [hchild, ih hd]
    · simp [hj]

end Condition

namespace Check

open Condition

def node? : Check → List Nat → Option Check
  | k, [] => some k
  | .composite _ checks, i :: path => checks[i]?.bind (·.node? path)
  | _, _ :: _ => none

@[simp] theorem node?_nil (k : Check) : k.node? [] = some k := by
  cases k <;> rfl

variable {s : Settings} {t : FileTree} {root : String} {level i : Nat} {path : List Nat}
  {c d e : Condition} {k : Check}

theorem exists_getElem?_of_buildAll {cs : List Condition} {ks : List Check}
    (h : (buildAll s level cs).value = .ok ks) (hc : cs[i]? = some c) :
    ∃ k, ks[i]? = some k ∧ (buildAt s level c).value = .ok k := by
  induction cs generalizing ks i with
  | nil => cases hc
  | cons first rest ih =>
    obtain ⟨k, built, hfirst, hrest, rfl⟩ := buildAll_cons_eq_ok_iff.1 h
    cases i with
    | zero =>
      obtain rfl : first = c := by simpa using hc
      exact ⟨k, rfl, hfirst⟩
    | succ i =>
      obtain ⟨n, hn, hbuild⟩ := ih hrest (hc : rest[i]? = some c)
      exact ⟨n, hn, hbuild⟩

theorem exists_buildAll_iff {cs : List Condition} :
    (∃ ks, (buildAll s level cs).value = .ok ks) ↔
      ∀ c ∈ cs, ∃ k, (buildAt s level c).value = .ok k := by
  induction cs with
  | nil => simp [buildAll]
  | cons c rest ih =>
    rw [List.forall_mem_cons, ← ih]
    simp only [buildAll_cons_eq_ok_iff]
    constructor
    · intro h
      obtain ⟨ks, k, built, hk, hbuilt, -⟩ := h
      exact ⟨⟨k, hk⟩, built, hbuilt⟩
    · intro h
      obtain ⟨⟨k, hk⟩, built, hbuilt⟩ := h
      exact ⟨_, k, built, hk, hbuilt, rfl⟩

theorem exists_node (h : (buildAt s level c).value = .ok k) (hd : c.node? path = some d) :
    ∃ n, k.node? path = some n ∧ (buildAt s (level + path.length) d).value = .ok n := by
  induction path generalizing level c k with
  | nil =>
    obtain rfl : c = d := by simpa using hd
    exact ⟨k, node?_nil k, h⟩
  | cons i path ih =>
    obtain ⟨logic, checks, child, rfl, hchild, hd⟩ := node?_cons_eq_some_iff.1 hd
    obtain ⟨-, built, hbuilt, rfl⟩ := buildAt_composite_eq_ok_iff.1 h
    obtain ⟨k, hk, hbuild⟩ := exists_getElem?_of_buildAll hbuilt hchild
    obtain ⟨n, hn, hnode⟩ := ih hbuild hd
    refine ⟨n, ?_, ?_⟩
    · rw [node?, hk, Option.bind_some, hn]
    · rwa [List.length_cons, Nat.add_comm path.length, ← Nat.add_assoc]

theorem exists_build_replaceAt (h : (buildAt s level c).value = .ok k)
    (hd : c.node? path = some d)
    (he : ∃ n, (buildAt s (level + path.length) e).value = .ok n) :
    ∃ k', (buildAt s level (c.replaceAt path e)).value = .ok k' := by
  induction path generalizing level c k with
  | nil => simpa using he
  | cons i path ih =>
    obtain ⟨logic, checks, child, rfl, hchild, hd⟩ := node?_cons_eq_some_iff.1 hd
    obtain ⟨hlevel, built, hbuilt, rfl⟩ := buildAt_composite_eq_ok_iff.1 h
    rw [List.length_cons, Nat.add_comm path.length, ← Nat.add_assoc] at he
    have hchildren : ∃ ks,
        (buildAll s (level + 1) (checks.modify i (·.replaceAt path e))).value = .ok ks := by
      refine exists_buildAll_iff.2 fun part hpart => ?_
      obtain ⟨j, hj⟩ := List.mem_iff_getElem?.1 hpart
      rw [List.getElem?_modify] at hj
      obtain ⟨old, hold, rfl⟩ := Option.map_eq_some_iff.1 hj
      obtain ⟨k, -, hk⟩ := exists_getElem?_of_buildAll hbuilt hold
      by_cases hij : i = j
      · subst hij
        obtain rfl : child = old := Option.some_inj.1 (hchild.symm.trans hold)
        rw [if_pos rfl]
        exact ih hk hd he
      · rw [if_neg hij]
        exact ⟨k, hk⟩
    obtain ⟨ks, hks⟩ := hchildren
    exact ⟨_, buildAt_composite_eq_ok_iff.2 ⟨hlevel, ks, hks, rfl⟩⟩

/-- What a check that was built from a condition finds in a project. -/
structure Evaluates (s : Settings) (t : FileTree) (root : String) (c : Condition) (k : Check) :
    Prop where
  truth : (k.run t root).value = c.truth s t root
  parts : ∀ path d, c.node? path = some d →
    ∃ n, k.node? path = some n ∧ (n.run t root).value = d.truth s t root
  leaves : ∀ path leaf target, c.node? path = some leaf → leaf.target? = some target →
    ∃ n, k.node? path = some n ∧ (n.run t root).value =
      ((!s.sandbox || (Files.Location.isContained target && inside t root target)) &&
        leaf.verdict t s.strategies root)
  joins : ∀ path logic cs, c.node? path = some (.composite logic cs) →
    ∃ ks, k.node? path = some (.composite logic ks) ∧ ks.length = cs.length ∧
      ((composite logic ks).run t root).value =
        logic.combine (ks.map fun n => (n.run t root).value)
  opposite : ∀ path logic cs, c.node? path = some (.composite logic cs) →
    ∃ k₁ k₂ n₁ n₂, (build s (c.replaceAt path (.composite .anyOf cs))).value = .ok k₁ ∧
      (build s (c.replaceAt path (.composite .noneOf cs))).value = .ok k₂ ∧
      k₁.node? path = some n₁ ∧ k₂.node? path = some n₂ ∧
      (n₁.run t root).value = !(n₂.run t root).value
  replaced : ∀ path d e k', c.node? path = some d → e.truth s t root = d.truth s t root →
    (build s (c.replaceAt path e)).value = .ok k' → (k'.run t root).value = (k.run t root).value

theorem exists_node_value (h : (build s c).value = .ok k) (hd : c.node? path = some d) :
    ∃ n, k.node? path = some n ∧ (n.run t root).value = d.truth s t root := by
  obtain ⟨n, hn, hbuild⟩ := exists_node h hd
  exact ⟨n, hn, run_buildAt _ d hbuild⟩

theorem exists_build_logic (t : FileTree) (root : String) (h : (build s c).value = .ok k)
    {logic : Logic} {cs : List Condition} (hd : c.node? path = some (.composite logic cs))
    (other : Logic) :
    ∃ k' n, (build s (c.replaceAt path (.composite other cs))).value = .ok k' ∧
      k'.node? path = some n ∧ (n.run t root).value = other.combine (truths s t root cs) := by
  obtain ⟨_, _, hbuild⟩ := exists_node h hd
  obtain ⟨hlevel, ks, hks, -⟩ := buildAt_composite_eq_ok_iff.1 hbuild
  have hother := buildAt_composite_eq_ok_iff.2 ⟨hlevel, ks, hks, (rfl : composite other ks = _)⟩
  obtain ⟨k', hk'⟩ := exists_build_replaceAt h hd ⟨_, hother⟩
  obtain ⟨n, hn, hvalue⟩ := exists_node_value hk' (node?_replaceAt hd _)
  exact ⟨k', n, hk', hn, hvalue⟩

/-- A check that was built from a condition finds the truth of the condition, of each of its parts
and of whatever has the same truth as one of its parts in the place of the part. -/
theorem evaluates_of_build (h : (build s c).value = .ok k) (t : FileTree) (root : String) :
    Evaluates s t root c k where
  truth := run_buildAt 1 c h
  parts := fun _ _ hd => exists_node_value h hd
  leaves := by
    intro path leaf target hd htarget
    obtain ⟨n, hn, hvalue⟩ := exists_node_value h hd
    exact ⟨n, hn, hvalue.trans (truth_eq_leafTruth htarget)⟩
  joins := by
    intro path logic cs hd
    obtain ⟨n, hn, hbuild⟩ := exists_node h hd
    obtain ⟨-, ks, hks, rfl⟩ := buildAt_composite_eq_ok_iff.1 hbuild
    refine ⟨ks, hn, ?_, run_composite_value logic ks⟩
    have hvalues : (ks.map fun n => (n.run t root).value) = truths s t root cs :=
      run_buildAll _ cs hks
    rw [← List.length_map, hvalues, truths_eq_map, List.length_map]
  opposite := by
    intro path logic cs hd
    obtain ⟨k₁, n₁, hk₁, hn₁, hany⟩ := exists_build_logic t root h hd .anyOf
    obtain ⟨k₂, n₂, hk₂, hn₂, hnone⟩ := exists_build_logic t root h hd .noneOf
    refine ⟨k₁, k₂, n₁, n₂, hk₁, hk₂, hn₁, hn₂, ?_⟩
    rw [hany, hnone, Logic.combine_anyOf_eq_not_noneOf]
  replaced := by
    intro path d e k' hd htruth hk'
    rw [run_buildAt 1 _ hk', run_buildAt 1 c h, truth_replaceAt hd htruth]

theorem evaluates_of_build_of_nested_composites :
    let t : FileTree := ⟨[(["p"], .folder), (["p", "a"], .file ⟨#[]⟩)], []⟩
    let c : Condition := .composite .allOf [.composite .noneOf [],
      .composite .anyOf [.fileNotExists "../a", .composite .allOf [.fileExists "a"]]]
    let k : Check := .composite .allOf [.composite .noneOf [],
      .composite .anyOf [.escaped, .composite .allOf [.guarded "a" (.presence true)]]]
    (build .usual c).value = .ok k ∧ Evaluates .usual t "p" c k := by
  intro t c k
  have h : (build .usual c).value = .ok k := rfl
  exact ⟨h, evaluates_of_build h t "p"⟩

end Check
end StorePolicy

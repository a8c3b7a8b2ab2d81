import StorePolicy.Check.Build
import StorePolicy.Rule

/-!
# When conditions build

The nodes of a condition stand in a row, each before those below it and with its level. A node has a
fault if it is nested too deep, whatever else is wrong with it, or if its pattern or its element
path does not compile and its target does not escape. A condition builds if no node has a fault,
and is refused with the fault of the first that has one. The bound is checked from the top while
building and reckoned from the bottom as a depth; both are the same.
-/
namespace StorePolicy

namespace Condition

mutual
/-- A condition and all below it with their levels, each before what is below it. -/
def preorder (level : Nat) : Condition → List (Nat × Condition)
  | .composite logic checks => (level, .composite logic checks) :: preorderOf (level + 1) checks
  | c => [(level, c)]

def preorderOf (level : Nat) : List Condition → List (Nat × Condition)
  | [] => []
  | c :: rest => preorder level c ++ preorderOf level rest
end

def Compiles : Condition → Prop
  | .jsonPathMatches _ _ pattern => (Pattern.compile pattern).isOk = true
  | .patternInFile _ pattern => (Pattern.compile pattern).isOk = true
  | .xmlPathExists _ path => (Xml.ElementPath.compile path).isOk = true
  | _ => True

def patternFault? (pattern : String) : Option BuildFault :=
  match Pattern.compile pattern with
  | .ok _ => none
  | .error cause => some (.invalidPattern pattern cause)

def textFault? : Condition → Option BuildFault
  | .jsonPathMatches _ _ pattern => patternFault? pattern
  | .patternInFile _ pattern => patternFault? pattern
  | .xmlPathExists _ path =>
    match Xml.ElementPath.compile path with
    | .ok _ => none
    | .error cause => some (.invalidPath path cause)
  | _ => none

mutual
theorem levels_le_iff {m : Nat} (level : Nat) (c : Condition) :
    (∀ node ∈ c.preorder level, node.1 ≤ m) ↔ level + c.depth ≤ m + 1 := by
  cases c with
  | composite logic checks =>
    rw [preorder, List.forall_mem_cons, depth,
      and_congr_right fun h => levels_preorderOf_le_iff (Nat.succ_le_succ h) checks]
    omega
  | _ => simp [preorder, depth]

theorem levels_preorderOf_le_iff {m level : Nat} (hlevel : level ≤ m + 1) (cs : List Condition) :
    (∀ node ∈ preorderOf level cs, node.1 ≤ m) ↔ level + deepest cs ≤ m + 1 := by
  cases cs with
  | nil => simp [preorderOf, deepest, hlevel]
  | cons c rest =>
    rw [preorderOf, List.forall_mem_append, levels_le_iff level c,
      levels_preorderOf_le_iff hlevel rest, deepest]
    omega
end

mutual
theorem forall_mem_preorder_iff {P : Condition → Prop}
    (hP : ∀ logic checks, P (.composite logic checks)) (level : Nat) (c : Condition) :
    (∀ node ∈ c.preorder level, P node.2) ↔ ∀ leaf ∈ c.leaves, P leaf := by
  cases c with
  | composite logic checks =>
    rw [preorder, List.forall_mem_cons, leaves, ← forall_mem_preorderOf_iff hP (level + 1) checks]
    exact and_iff_right (hP logic checks)
  | _ => simp [preorder, leaves]

theorem forall_mem_preorderOf_iff {P : Condition → Prop}
    (hP : ∀ logic checks, P (.composite logic checks)) (level : Nat) (cs : List Condition) :
    (∀ node ∈ preorderOf level cs, P node.2) ↔ ∀ leaf ∈ leavesOf cs, P leaf := by
  cases cs with
  | nil => simp [preorderOf, leavesOf]
  | cons c rest =>
    rw [preorderOf, List.forall_mem_append, leavesOf, List.forall_mem_append,
      forall_mem_preorder_iff hP level c, forall_mem_preorderOf_iff hP level rest]
end

theorem patternFault?_eq_none_iff {pattern : String} :
    patternFault? pattern = none ↔ (Pattern.compile pattern).isOk = true := by
  unfold patternFault?
  cases Pattern.compile pattern <;> simp [Except.isOk, Except.toBool]

theorem textFault?_eq_none_iff {c : Condition} : c.textFault? = none ↔ c.Compiles := by
  cases c with
  | jsonPathMatches target path pattern => exact patternFault?_eq_none_iff
  | patternInFile target pattern => exact patternFault?_eq_none_iff
  | xmlPathExists target path =>
    rw [textFault?, Compiles]
    cases Xml.ElementPath.compile path <;> simp [Except.isOk, Except.toBool]
  | _ => simp [textFault?, Compiles]

end Condition

namespace Check

open Condition

variable {s : Settings}

/-- A leaf is replaced by a check that fails if its target escapes the sandbox by its text. -/
def Settings.replaces (s : Settings) (c : Condition) : Bool :=
  s.sandbox && c.target?.any fun target => !Files.Location.isContained target

theorem replaces_of_contained {c : Condition}
    (hcontained : ∀ target ∈ c.targets, Files.Location.isContained target = true)
    {leaf : Condition} (hleaf : leaf ∈ c.leaves) : s.replaces leaf = false := by
  cases htarget : leaf.target? with
  | none => simp [Settings.replaces, htarget]
  | some target =>
    have hmem : target ∈ c.targets := List.mem_filterMap.2 ⟨leaf, hleaf, htarget⟩
    simp [Settings.replaces, htarget, hcontained target hmem]

def Settings.fault? (s : Settings) (node : Nat × Condition) : Option BuildFault :=
  if s.maxDepth < node.1 then some (.depthExceeded s.maxDepth)
  else if s.replaces node.2 then none
  else node.2.textFault?

theorem probe?_eq_error_iff {c : Condition} {f : BuildFault} :
    probe? s c = .error f ↔ c.textFault? = some f := by
  have hpattern : ∀ (pattern : String) (wrap : Pattern → Option Probe),
      (compilePattern pattern).map wrap = .error f ↔ patternFault? pattern = some f := by
    intro pattern wrap
    unfold compilePattern patternFault?
    cases Pattern.compile pattern with
    | error cause =>
      rw [Option.some_inj]
      exact ⟨Except.error.inj, congrArg Except.error⟩
    | ok p => constructor <;> intro h <;> cases h
  cases c with
  | jsonPathMatches target path pattern => exact hpattern pattern _
  | patternInFile target pattern => exact hpattern pattern _
  | xmlPathExists target path =>
    rw [probe?, textFault?]
    cases Xml.ElementPath.compile path <;> simp
  | _ => simp [probe?, textFault?]

theorem buildLeaf_eq_error_iff {c : Condition} {target : String} (hc : c.target? = some target)
    {f : BuildFault} :
    (buildLeaf s c target).value = .error f ↔
      (if s.replaces c then none else c.textFault?) = some f := by
  have hreplaces : s.replaces c = (s.sandbox && !Files.Location.isContained target) := by
    simp [Settings.replaces, hc]
  rw [hreplaces, buildLeaf]
  split
  · simp
  · rw [← probe?_eq_error_iff (s := s)]
    cases hprobe : probe? s c with
    | error cause => simp
    | ok o => cases o <;> simp

-- by recursion on the tree: building stops at the first fault, and so does the search for it
mutual
theorem buildAt_eq_error_iff (level : Nat) (c : Condition) (f : BuildFault) :
    (buildAt s level c).value = .error f ↔ (c.preorder level).findSome? s.fault? = some f := by
  unfold buildAt
  split
  · next hdeep => cases c <;> simp [preorder, Settings.fault?, hdeep]
  · next hlevel =>
    cases c with
    | composite logic checks =>
      have hnode : s.fault? (level, .composite logic checks) = none := by
        simp [Settings.fault?, hlevel, Settings.replaces, target?, textFault?]
      rw [preorder, List.findSome?_cons, hnode, ← buildAll_eq_error_iff (level + 1) checks]
      cases hall : (buildAll s (level + 1) checks).value <;> simp [hall]
    | _ =>
      rw [preorder, List.findSome?_singleton, Settings.fault?, if_neg hlevel]
      · exact buildLeaf_eq_error_iff rfl
      · simp

theorem buildAll_eq_error_iff (level : Nat) (cs : List Condition) (f : BuildFault) :
    (buildAll s level cs).value = .error f ↔ (preorderOf level cs).findSome? s.fault? = some f := by
  cases cs with
  | nil => simp [buildAll, preorderOf]
  | cons c rest =>
    have hfirst := buildAt_eq_error_iff level c
    rw [preorderOf, List.findSome?_append, buildAll]
    cases hc : (buildAt s level c).value with
    | error cause => simp [hc, (hfirst cause).1 hc]
    | ok k =>
      have hnone : (c.preorder level).findSome? s.fault? = none := by
        rw [Option.eq_none_iff_forall_ne_some]
        intro cause hcause
        have herror := (hfirst cause).2 hcause
        rw [hc] at herror
        cases herror
      rw [hnone, Option.none_or, ← buildAll_eq_error_iff level rest]
      cases hall : (buildAll s level rest).value <;> simp [hc, hall]
end

theorem fault?_eq_none_iff {node : Nat × Condition} :
    s.fault? node = none ↔
      node.1 ≤ s.maxDepth ∧ (s.replaces node.2 = true ∨ node.2.Compiles) := by
  unfold Settings.fault?
  split
  · next hdeep => simp [Nat.not_le.2 hdeep]
  · next hlevel =>
    rw [← textFault?_eq_none_iff]
    cases s.replaces node.2 <;> simp [Nat.not_lt.1 hlevel]

theorem maxDepth_lt_of_fault? {node : Nat × Condition} {m : Nat}
    (h : s.fault? node = some (.depthExceeded m)) : s.maxDepth < node.1 := by
  unfold Settings.fault? at h
  split at h
  · assumption
  · split at h
    · cases h
    · obtain ⟨level, c⟩ := node
      have hpattern : ∀ pattern, patternFault? pattern ≠ some (.depthExceeded m) := by
        intro pattern
        unfold patternFault?
        cases Pattern.compile pattern <;> simp
      cases c with
      | jsonPathMatches target path pattern => exact absurd h (hpattern pattern)
      | patternInFile target pattern => exact absurd h (hpattern pattern)
      | xmlPathExists target path =>
        simp only [textFault?] at h
        cases hpath : Xml.ElementPath.compile path <;> simp [hpath] at h
      | _ => cases h

theorem findSome?_fault?_eq_none_iff (c : Condition) :
    (c.preorder 1).findSome? s.fault? = none ↔
      c.depth ≤ s.maxDepth ∧ ∀ leaf ∈ c.leaves, s.replaces leaf = true ∨ leaf.Compiles := by
  have hcomposite : ∀ logic checks, s.replaces (.composite logic checks) = true ∨
      (Condition.composite logic checks).Compiles := fun _ _ => .inr trivial
  rw [List.findSome?_eq_none_iff, ← forall_mem_preorder_iff hcomposite 1 c]
  simp only [fault?_eq_none_iff]
  have hlevels : (∀ n ∈ c.preorder 1, n.1 ≤ s.maxDepth) ↔ c.depth ≤ s.maxDepth := by
    rw [levels_le_iff 1 c]
    omega
  rw [← hlevels]
  constructor
  · intro h
    exact ⟨fun n hn => (h n hn).1, fun n hn => (h n hn).2⟩
  · intro h n hn
    exact ⟨h.1 n hn, h.2 n hn⟩

theorem builds_iff {c : Condition} :
    (∃ k, (build s c).value = .ok k) ↔
      c.depth ≤ s.maxDepth ∧ ∀ leaf ∈ c.leaves, s.replaces leaf = true ∨ leaf.Compiles := by
  rw [← findSome?_fault?_eq_none_iff, Option.eq_none_iff_forall_ne_some]
  simp only [ne_eq, ← buildAt_eq_error_iff]
  change (∃ k, (build s c).value = .ok k) ↔ ∀ f, ¬(build s c).value = .error f
  cases (build s c).value <;> simp

/-- A condition builds exactly if its depth keeps to the bound and every leaf whose target does not
escape compiles. Otherwise the fault is that of the first node that has one, and it is never about
the depth if the condition is of a valid rule. -/
theorem build_stops_at_first_fault (s : Settings) (c : Condition) :
    ((∃ k, (build s c).value = .ok k) ↔
      c.depth ≤ s.maxDepth ∧ ∀ leaf ∈ c.leaves, s.replaces leaf = true ∨ leaf.Compiles) ∧
    (∀ f, (build s c).value = .error f ↔
      ∃ before node after, c.preorder 1 = before ++ node :: after ∧
        (∀ n ∈ before, s.fault? n = none) ∧ s.fault? node = some f) ∧
    (∀ r : Rule, r.validate s.maxDepth = .ok () → c ∈ r.conditions →
      ∀ m, (build s c).value ≠ .error (.depthExceeded m)) := by
  have herror := fun f => buildAt_eq_error_iff (s := s) 1 c f
  refine ⟨?_, ?_, ?_⟩
  · rw [← findSome?_fault?_eq_none_iff, Option.eq_none_iff_forall_ne_some]
    simp only [ne_eq, ← herror]
    change (∃ k, (build s c).value = .ok k) ↔ ∀ f, ¬(build s c).value = .error f
    cases (build s c).value <;> simp
  · intro f
    refine (herror f).trans ?_
    rw [List.findSome?_eq_some_iff]
    constructor
    · intro h
      obtain ⟨before, node, after, hsplit, hnode, hbefore⟩ := h
      exact ⟨before, node, after, hsplit, hbefore, hnode⟩
    · intro h
      obtain ⟨before, node, after, hsplit, hbefore, hnode⟩ := h
      exact ⟨before, node, after, hsplit, hnode, hbefore⟩
  · intro r hr hc m h
    have hdepth : c.depth ≤ s.maxDepth :=
      Nat.le_trans (depth_le_deepest hc) ((Rule.validate_eq_ok_iff r s.maxDepth).1 hr).2
    obtain ⟨node, hnode, hfault⟩ := List.exists_of_findSome?_eq_some ((herror _).1 h)
    have hlevel : node.1 ≤ s.maxDepth := (levels_le_iff 1 c).2 (by omega) node hnode
    have hdeep : s.maxDepth < node.1 := maxDepth_lt_of_fault? hfault
    omega

theorem build_stops_at_first_fault_of_two_levels :
    let s := Settings.usual.withMaxDepth 2
    let c : Condition :=
      .composite .anyOf [.xmlPathExists "../a.xml" "a[", .patternInFile "b.txt" "("]
    let r := (Rule.new "A" "t").withCondition c
    r.validate s.maxDepth = .ok () ∧ c ∈ r.conditions ∧
      ∀ m, (build s c).value ≠ .error (.depthExceeded m) := by
  intro s c r
  have hr : r.validate s.maxDepth = .ok () :=
    (Rule.validate_eq_ok_iff r s.maxDepth).2 ⟨by decide, by decide +kernel⟩
  have hc : c ∈ r.conditions := List.mem_singleton.2 rfl
  exact ⟨hr, hc, (build_stops_at_first_fault s c).2.2 r hr hc⟩

end Check
end StorePolicy

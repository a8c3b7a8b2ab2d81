import StorePolicy.Candidate.DryRun
import StorePolicy.Proofs.Candidate.Acceptance
import StorePolicy.Proofs.Check.Obstruction

/-!
# What a dry run finds

A dry run checks candidates with the usual settings, whatever the settings were that they
were accepted under. It finds nothing at all if one of them is nested deeper than is usual, and it
finds targets outside the project to fail where the configuration has no sandbox. With these
two exceptions it finds the candidates that the project breaks, so it can be relied on exactly
under a configuration that allows neither.
-/
namespace StorePolicy

namespace Check

open Condition

theorem truth_eq_of_sandbox {s s' : Settings} {t : FileTree} {root : String} {c : Condition}
    (hsandbox : s'.sandbox = s.sandbox) (hstrategies : s'.strategies = s.strategies) :
    c.truth s' t root = c.truth s t root := by
  refine truth_congr fun leaf _ target htarget => ?_
  rw [truth_eq_leafTruth htarget, truth_eq_leafTruth htarget, leafTruth, leafTruth, hsandbox,
    hstrategies]

theorem truth_eq_of_inside {s s' : Settings} {t : FileTree} {root : String} {c : Condition}
    (hstrategies : s'.strategies = s.strategies)
    (hcontained : ∀ target ∈ c.targets, Files.Location.isContained target = true)
    (hinside : ∀ target ∈ c.targets, inside t root target = true) :
    c.truth s' t root = c.truth s t root := by
  refine truth_congr fun leaf hleaf target htarget => ?_
  have hmem : target ∈ c.targets := List.mem_filterMap.2 ⟨leaf, hleaf, htarget⟩
  rw [truth_eq_leafTruth htarget, truth_eq_leafTruth htarget, leafTruth, leafTruth,
    hcontained target hmem, hinside target hmem, hstrategies]
  simp

end Check

theorem Engine.loadRules_ruleSet (e : Engine) (set : RuleSet) :
    (e.loadRules set).value.2.ruleSet = e.config.kept set := by
  rw [loadRules_value]
  rfl

theorem Rule.Buildable.broken_eq {s : Check.Settings} {r : Rule} (h : r.Buildable s) (t : FileTree)
    (root : String) : r.broken s t root = r.conditions.any fun c => !c.truth s t root := by
  rw [broken, Bool.eq_iff_iff, List.any_eq_true, List.any_eq_true]
  refine exists_congr fun c => and_congr_right fun hc => ?_
  simp [h c hc]

theorem PolicyRule.Acceptable.buildable {s s' : Check.Settings} {r : PolicyRule}
    (h : Acceptable s r) (hdepth : r.rule.depth ≤ s'.maxDepth) : r.rule.Buildable s' := by
  intro c hc
  rw [Check.builds_eq_true_iff, Check.builds_iff]
  refine ⟨(Condition.depth_le_deepest hc).trans hdepth, fun leaf hleaf => .inr ?_⟩
  obtain ⟨-, hleaves⟩ := Check.builds_iff.1 (Check.builds_eq_true_iff.1 (h.builds c hc))
  have hstays : s.replaces leaf = false := Check.replaces_of_contained (h.contained c hc) hleaf
  exact (hleaves leaf hleaf).resolve_left (by simp [hstays])

namespace Candidate

open Check.Settings (defaultMaxDepth)

def violated (s : Check.Settings) (t : FileTree) (root : String) (candidates : List PolicyRule) :
    List String :=
  (candidates.filter fun r => r.rule.conditions.any fun c => !c.truth s t root).map (·.id)

def Shallow (candidates : List PolicyRule) : Prop :=
  ∀ r ∈ candidates, r.rule.depth ≤ defaultMaxDepth

instance (candidates : List PolicyRule) : Decidable (Shallow candidates) :=
  inferInstanceAs (Decidable (∀ r ∈ candidates, r.rule.depth ≤ defaultMaxDepth))

def TargetsInside (t : FileTree) (root : String) (candidates : List PolicyRule) : Prop :=
  ∀ r ∈ candidates, ∀ c ∈ r.rule.conditions, ∀ target ∈ c.targets,
    Condition.inside t root target = true

variable {s s' : Check.Settings} {t : FileTree} {root : String} {candidates : List PolicyRule}

theorem violated_congr (h : ∀ r ∈ candidates, ∀ c ∈ r.rule.conditions,
    c.truth s' t root = c.truth s t root) :
    violated s' t root candidates = violated s t root candidates := by
  unfold violated
  congr 1
  refine List.filter_congr fun r hr => ?_
  rw [Bool.eq_iff_iff, List.any_eq_true, List.any_eq_true]
  refine exists_congr fun c => and_congr_right fun hc => ?_
  rw [h r hr c hc]

theorem admits_usual_iff (h : ∀ r ∈ candidates, r.Acceptable s) :
    Config.usual.Admits (.ofRules (candidates.map (·.rule))) ↔ Shallow candidates := by
  have hreject : Config.usual.engine.rejectDuplicateIds = false := rfl
  simp only [Config.Admits, RuleSet.validate_eq_ok_iff, RuleSet.ofRules, List.forall_mem_map,
    hreject, Bool.false_eq_true, false_implies, and_true, Rule.validate_eq_ok_iff]
  refine forall₂_congr fun r hr => and_iff_right ?_
  exact ((Rule.validate_eq_ok_iff r.rule s.maxDepth).1 (h r hr).valid).1

/-- What a dry run finds of candidates that were accepted under whatever settings. -/
theorem dryRun_value (h : ∀ r ∈ candidates, r.Acceptable s) :
    (dryRun t candidates root).value =
      if Shallow candidates then violated .usual t root candidates else [] := by
  have hselects : ∀ r : Rule, Config.usual.selects .both r = true := by
    intro r
    simp [Config.selects, Config.usual, RulesConfig.usual, Rule.appliesTo, Platform.appliesTo_both]
  have hfound : (dryRun t candidates root).value =
      ((Config.usual.kept (.ofRules (candidates.map (·.rule)))).rules.filter
        fun r => r.broken .usual t root).map (·.id) := by
    simp only [dryRun, Traced.value_bind, Traced.value_pure, Engine.checkAll_value,
      Engine.loadRules_ruleSet, Engine.loadRules_config]
    simp only [Engine.new, hselects, Bool.true_and]
    rfl
  rw [hfound]
  split
  · next hshallow =>
    rw [Config.kept_of_admits ((admits_usual_iff h).2 hshallow), RuleSet.ofRules, List.filter_map,
      List.map_map, violated]
    congr 1
    refine List.filter_congr fun r hr => ?_
    exact ((h r hr).buildable (hshallow r hr)).broken_eq t root
  · next hdeep =>
    rw [Config.kept_of_not_admits fun hadmits => hdeep ((admits_usual_iff h).1 hadmits)]
    rfl

theorem dryRun_eq_violated (c : Config) (h : ∀ r ∈ candidates, r.Acceptable c.settings)
    (hshallow : Shallow candidates)
    (hinside : c.engine.sandboxTargets = true ∨ TargetsInside t root candidates) :
    (dryRun t candidates root).value = violated c.settings t root candidates := by
  rw [dryRun_value h, if_pos hshallow]
  refine violated_congr fun r hr cond hc => ?_
  rcases hinside with hsandbox | hinside
  · exact Check.truth_eq_of_sandbox hsandbox.symm rfl
  · exact Check.truth_eq_of_inside rfl ((h r hr).contained cond hc) (hinside r hr cond hc)

section Limits

def nested : Nat → Condition → Condition
  | 0, c => c
  | n + 1, c => .composite .allOf [nested n c]

theorem depth_nested (n : Nat) (c : Condition) : (nested n c).depth = n + c.depth := by
  induction n with
  | zero => simp [nested]
  | succ n ih =>
    simp only [nested, Condition.depth, Condition.deepest, ih]
    omega

theorem leaves_nested (n : Nat) (c : Condition) : (nested n c).leaves = c.leaves := by
  induction n with
  | zero => rfl
  | succ n ih => simp [nested, Condition.leaves, Condition.leavesOf, ih]

theorem truth_nested (n : Nat) (c : Condition) :
    (nested n c).truth s t root = c.truth s t root := by
  induction n with
  | zero => rfl
  | succ n ih => simp [nested, Condition.truth, Condition.truths, Logic.combine, ih]

def wanting (target : String) (depth : Nat) : PolicyRule where
  rule := (((Rule.new "NEW_1" "t").withDescription "d").withCategory "c").withCondition
    (nested depth (.fileExists target))
  metadata := ⟨"u", "q", "r"⟩

theorem violated_wanting (target : String) (depth : Nat) :
    violated s t root [wanting target depth] =
      if Condition.leafTruth s t root target (.fileExists target) then [] else ["NEW_1"] := by
  have hconditions : (wanting target depth).rule.conditions = [nested depth (.fileExists target)] :=
    rfl
  have htruth : (nested depth (.fileExists target)).truth s t root =
      Condition.leafTruth s t root target (.fileExists target) := truth_nested depth _
  simp only [violated, List.filter_singleton, hconditions, List.any_cons, List.any_nil,
    Bool.or_false, htruth]
  cases Condition.leafTruth s t root target (.fileExists target) <;> rfl

theorem acceptable_wanting {target : String} {depth : Nat}
    (htarget : Files.Location.isContained target = true) (hdepth : depth + 1 ≤ s.maxDepth) :
    (wanting target depth).Acceptable s := by
  have hconditions : (wanting target depth).rule.conditions = [nested depth (.fileExists target)] :=
    rfl
  have hleaves : (nested depth (.fileExists target)).leaves = [.fileExists target] :=
    leaves_nested depth _
  have hnested : (nested depth (.fileExists target)).depth ≤ s.maxDepth := by
    rwa [depth_nested]
  have hid : PolicyRule.IsStrictId "NEW_1" := PolicyRule.validateId_eq_ok_iff.1 rfl
  have hblank : Text.blank "NEW_1" = false := by simp [Text.blank, Text.isBlank]
  have htexts : ∀ text ∈ ["t", "d", "c", "u", "q", "r"], Text.blank text = false := by
    simp [Text.blank, Text.isBlank]
  refine ⟨hid, ?_, ?_, ?_, ?_, ?_⟩
  · rw [Rule.validate_eq_ok_iff, Rule.depth, hconditions]
    exact ⟨hblank, by simpa [Condition.deepest] using hnested⟩
  · intro p hp
    exact htexts p.2 (List.mem_map_of_mem (f := Prod.snd) hp)
  · simp [hconditions]
  · simpa [hconditions, Condition.targets, hleaves, Condition.target?] using htarget
  · intro c hc
    obtain rfl : c = nested depth (.fileExists target) := by simpa [hconditions] using hc
    rw [Check.builds_eq_true_iff, Check.builds_iff, hleaves]
    exact ⟨hnested, by simp [Condition.Compiles]⟩

def bareTree : FileTree := ⟨[], []⟩

def linkedTree : FileTree :=
  ⟨[(["p"], .folder), (["p", "l"], .link "../q"), (["q"], .folder), (["q", "a"], .file ⟨#[]⟩)], []⟩

theorem leafTruth_bareTree :
    Condition.leafTruth s bareTree "p" "a" (.fileExists "a") = false := by
  have hjoin : Files.Location.join "p" "a" = "p/a" := by decide
  have hmoves : Files.moves "p/a" = [.down "p", .down "a"] := by decide
  have hrefuses : Files.refuses "p/a" = none := by decide
  have hrelative : Files.Location.isAbsolute "p/a" = false := by decide
  have hbytes : "p".utf8ByteSize = 1 := rfl
  have hmissing : bareTree.resolve "p/a" = .error .notFound := by
    simp [FileTree.resolve, FileTree.follow, FileTree.start, FileTree.isFolderAt, FileTree.entry?,
      hmoves, hrefuses, hbytes, hrelative, bareTree, Files.maxNameBytes]
  have hexists : bareTree.exists? "p/a" = false := by
    rw [FileTree.exists?, FileTree.stat, hmissing]
    rfl
  rw [Condition.leafTruth, Condition.verdict, hjoin, hexists, Bool.and_false]

theorem leafTruth_linkedTree :
    Condition.leafTruth s linkedTree "p" "l/a" (.fileExists "l/a") = !s.sandbox := by
  have hjoin : Files.Location.join "p" "l/a" = "p/l/a" := by decide
  have hmoves : Files.moves "p" = [.down "p"] ∧
      Files.moves "p/l/a" = [.down "p", .down "l", .down "a"] ∧
      Files.moves "../q" = [.up, .down "q"] := by decide
  have hrefuses : Files.refuses "p" = none ∧ Files.refuses "p/l/a" = none := by decide
  have hrelative : Files.Location.isAbsolute "p" = false ∧
      Files.Location.isAbsolute "p/l/a" = false ∧ Files.Location.isAbsolute "../q" = false := by
    decide
  have hbytes : "p".utf8ByteSize = 1 ∧ "l".utf8ByteSize = 1 ∧ "q".utf8ByteSize = 1 ∧
      "a".utf8ByteSize = 1 := ⟨rfl, rfl, rfl, rfl⟩
  obtain ⟨hroot, hfile⟩ : linkedTree.resolve "p" = .ok ["p"] ∧
      linkedTree.resolve "p/l/a" = .ok ["q", "a"] := by
    simp [FileTree.resolve, FileTree.follow, FileTree.start, FileTree.isFolderAt, FileTree.entry?,
      hmoves, hrefuses, hbytes, hrelative, linkedTree, List.lookup_cons, Files.maxNameBytes,
      Files.maxLinks]
  have hexists : linkedTree.exists? "p/l/a" = true := by
    rw [FileTree.exists?, FileTree.stat, hfile]
    rfl
  have houtside : Condition.inside linkedTree "p" "l/a" = false := by
    refine Check.inside_of_placed hroot ?_
    rw [hjoin, Condition.placed, hfile]
    rfl
  rw [Condition.leafTruth, Condition.verdict, hjoin, hexists, houtside, Bool.and_false, Bool.or_false,
    Bool.and_true]

end Limits

/-- A dry run finds the accepted candidates that a project breaks, in order, as far as the usual
settings go: none if one of them is nested too deep, and those whose targets lead out besides. So
it is right about all candidates and projects exactly if the bound of the configuration is no
higher than usual and its sandbox is on. -/
theorem dryRun_eq_violated_iff (c : Config) :
    (∀ candidates, (∀ r ∈ candidates, r.Accepted c.settings) → ∀ t root,
      (dryRun t candidates root).value =
        (if Shallow candidates then violated .usual t root candidates else []) ∧
      (Shallow candidates →
        c.engine.sandboxTargets = true ∨ TargetsInside t root candidates →
          (dryRun t candidates root).value = violated c.settings t root candidates)) ∧
    ((∀ candidates, (∀ r ∈ candidates, r.Accepted c.settings) → ∀ t root,
        (dryRun t candidates root).value = violated c.settings t root candidates) ↔
      c.engine.maxConditionDepth ≤ defaultMaxDepth ∧ c.engine.sandboxTargets = true) := by
  have hacceptable : ∀ {candidates : List PolicyRule},
      (∀ r ∈ candidates, r.Accepted c.settings) → ∀ r ∈ candidates, r.Acceptable c.settings :=
    fun h r hr => PolicyRule.accepted_iff.1 (h r hr)
  refine ⟨fun candidates h t root => ⟨dryRun_value (hacceptable h),
    dryRun_eq_violated c (hacceptable h)⟩, ?_⟩
  constructor
  · intro hright
    constructor
    · -- a candidate that is nested one level deeper than usual is overlooked
      by_contra hdeep
      have hmax : c.settings.maxDepth = max c.engine.maxConditionDepth 1 := rfl
      have haccepted : ∀ r ∈ [wanting "a" defaultMaxDepth], r.Acceptable c.settings := by
        rw [List.forall_mem_singleton]
        exact acceptable_wanting (by decide) (by omega)
      have hvalue := hright [wanting "a" defaultMaxDepth]
        (fun r hr => PolicyRule.accepted_iff.2 (haccepted r hr)) bareTree "p"
      rw [dryRun_value haccepted, if_neg (by decide +kernel), violated_wanting, leafTruth_bareTree]
        at hvalue
      cases hvalue
    · -- a target that a link leads out to is found to fail
      by_contra hopen
      have hsandbox : c.settings.sandbox = false := by
        rw [Bool.not_eq_true] at hopen
        exact hopen
      have hmax : c.settings.maxDepth = max c.engine.maxConditionDepth 1 := rfl
      have haccepted : ∀ r ∈ [wanting "l/a" 0], r.Acceptable c.settings := by
        rw [List.forall_mem_singleton]
        exact acceptable_wanting (by decide) (by omega)
      have hvalue := hright [wanting "l/a" 0]
        (fun r hr => PolicyRule.accepted_iff.2 (haccepted r hr)) linkedTree "p"
      rw [dryRun_value haccepted, violated_wanting, violated_wanting, leafTruth_linkedTree,
        leafTruth_linkedTree, hsandbox, if_pos (by decide)] at hvalue
      cases hvalue
  · intro h candidates haccepted t root
    obtain ⟨hdepth, hsandbox⟩ := h
    refine dryRun_eq_violated c (hacceptable haccepted) ?_ (.inl hsandbox)
    intro r hr
    have hvalid := (hacceptable haccepted r hr).valid
    rw [Rule.validate_eq_ok_iff] at hvalid
    exact hvalid.2.trans (max_le hdepth (by decide))

theorem dryRun_eq_violated_of_two_candidates :
    let c : Config := { Config.usual with
      engine := { EngineConfig.usual with maxConditionDepth := 40, sandboxTargets := true } }
    let candidates := [wanting "a" 3, wanting "b" 0]
    (∀ r ∈ candidates, r.Accepted c.settings) ∧ Shallow candidates ∧
      c.engine.sandboxTargets = true ∧
      (dryRun bareTree candidates "p").value = violated c.settings bareTree "p" candidates := by
  intro c candidates
  have haccepted : ∀ r ∈ candidates, r.Accepted c.settings := by
    have hmax : c.settings.maxDepth = 40 := by decide
    simp only [candidates, List.forall_mem_cons, PolicyRule.accepted_iff]
    exact ⟨acceptable_wanting (by decide) (by omega),
      acceptable_wanting (by decide) (by omega), by simp⟩
  have hshallow : Shallow candidates := by decide
  exact ⟨haccepted, hshallow, rfl,
    ((dryRun_eq_violated_iff c).1 candidates haccepted bareTree "p").2 hshallow (.inl rfl)⟩

/-- A candidate that the configuration accepts is nested deeper than is usual, and the dry run says
nothing of it though the project breaks it. -/
theorem dryRun_misses_deep_candidate :
    let c : Config := { Config.usual with
      engine := { EngineConfig.usual with maxConditionDepth := 33 } }
    let r := wanting "a" 32
    1 ≤ c.engine.maxConditionDepth ∧ r.Accepted c.settings ∧
      violated c.settings bareTree "p" [r] = ["NEW_1"] ∧
      (dryRun bareTree [r] "p").value = [] := by
  intro c r
  have hmax : c.settings.maxDepth = 33 := by decide
  have hacceptable : r.Acceptable c.settings :=
    acceptable_wanting (by decide) (by omega)
  refine ⟨by decide, PolicyRule.accepted_iff.2 hacceptable, ?_, ?_⟩
  · rw [violated_wanting, leafTruth_bareTree]
    rfl
  · rw [dryRun_value (List.forall_mem_singleton.2 hacceptable), if_neg (by decide +kernel)]

end Candidate
end StorePolicy

import StorePolicy.CommandLine.Run
import StorePolicy.Proofs.Engine.Outcome

/-!
# Summaries

The summary of a check is made from the violations and from the number of rules checked. The counts by
severity add up to the violations, and the exit code, which looks at the counts only, says how
grave the violations are. The exit code of a command for many projects is the largest of theirs.
-/
namespace StorePolicy

namespace CheckSummary

variable {s : CheckSummary} {violations : List Rule} {severity : Severity}

theorem countOf_pos_iff : 0 < countOf severity violations ↔
    ∃ r ∈ violations, r.severity = severity := by
  simp [countOf, List.countP_pos_iff]

theorem countOf_add (violations : List Rule) :
    countOf .critical violations + countOf .major violations + countOf .minor violations +
      countOf .info violations = violations.length := by
  induction violations with
  | nil => rfl
  | cons r rest ih =>
    have hcount : ∀ s, countOf s (r :: rest) = countOf s rest + if r.severity = s then 1 else 0 := by
      intro s
      simp [countOf, List.countP_cons]
    rw [List.length_cons, ← ih]
    cases hr : r.severity <;> simp [hcount, hr] <;> omega

theorem exitCode_cases (s : CheckSummary) :
    (s.hasBlocking = true ∧ s.exitCode = 2) ∨
    (s.hasBlocking = false ∧ 0 < s.minor ∧ s.exitCode = 1) ∨
    (s.hasBlocking = false ∧ s.minor = 0 ∧ s.exitCode = 0) := by
  cases hblocking : s.hasBlocking with
  | true => exact .inl ⟨rfl, by simp [exitCode, hblocking]⟩
  | false =>
    rcases Nat.eq_zero_or_pos s.minor with hminor | hminor
    · exact .inr (.inr ⟨rfl, hminor, by simp [exitCode, hblocking, hminor]⟩)
    · exact .inr (.inl ⟨rfl, hminor, by simp [exitCode, hblocking, hminor]⟩)

theorem hasBlocking_ofViolations_iff (root : String) (p : Platform) (n : Nat) :
    (ofViolations root p n violations).hasBlocking = true ↔
      ∃ r ∈ violations, r.severity = .critical ∨ r.severity = .major := by
  have hcounts : (ofViolations root p n violations).hasBlocking = true ↔
      0 < countOf .critical violations ∨ 0 < countOf .major violations := by
    rw [hasBlocking, decide_eq_true_eq]
    exact Nat.add_pos_iff_pos_or_pos
  rw [hcounts, countOf_pos_iff, countOf_pos_iff]
  simp only [and_or_left, exists_or]

theorem exitCode_ofViolations (root : String) (p : Platform) (n : Nat) (violations : List Rule) :
    let code := (ofViolations root p n violations).exitCode
    (code = 2 ↔ ∃ r ∈ violations, r.severity = .critical ∨ r.severity = .major) ∧
    (code = 1 ↔ (∀ r ∈ violations, r.severity ≠ .critical ∧ r.severity ≠ .major) ∧
      ∃ r ∈ violations, r.severity = .minor) ∧
    (code = 0 ↔ ∀ r ∈ violations, r.severity = .info) := by
  intro code
  have hblocking : (∀ r ∈ violations, r.severity ≠ .critical ∧ r.severity ≠ .major) ↔
      (ofViolations root p n violations).hasBlocking = false := by
    rw [← Bool.not_eq_true, hasBlocking_ofViolations_iff]
    simp
  have hminor : (∃ r ∈ violations, r.severity = .minor) ↔
      0 < (ofViolations root p n violations).minor :=
    countOf_pos_iff.symm
  have hinfo : (∀ r ∈ violations, r.severity = .info) ↔
      (∀ r ∈ violations, r.severity ≠ .critical ∧ r.severity ≠ .major) ∧
        ¬∃ r ∈ violations, r.severity = .minor := by
    have hleft : ∀ s : Severity, s = .info ↔ (s ≠ .critical ∧ s ≠ .major) ∧ s ≠ .minor := by
      intro s
      cases s <;> decide
    simp only [hleft, forall_and, not_exists, not_and]
  rw [hinfo, hminor, hblocking, ← hasBlocking_ofViolations_iff root p n]
  obtain ⟨hb, hcode⟩ | ⟨hb, hm, hcode⟩ | ⟨hb, hm, hcode⟩ :=
    exitCode_cases (ofViolations root p n violations) <;>
  simp [code, *]

end CheckSummary

namespace Engine

/-- The numbers of a summary fit together and fit its violations. -/
structure AddsUp (t : FileTree) (e : Engine) (root : String) (p : Platform) (s : CheckSummary) :
    Prop where
  counts : s.critical + s.major + s.minor + s.info = s.violations.length
  violations : s.violations.Sublist (e.rulesFor p)
  rulesChecked : s.violations.length ≤ s.rulesChecked
  passed : s.passed = ((e.rulesFor p).filter fun r => e.config.isEnabled r.id).countP fun r =>
    (evaluateRule t e r root).value
  exitCode_two : s.exitCode = 2 ↔ ∃ r ∈ s.violations, r.severity = .critical ∨ r.severity = .major
  exitCode_one : s.exitCode = 1 ↔
    (∀ r ∈ s.violations, r.severity ≠ .critical ∧ r.severity ≠ .major) ∧
      ∃ r ∈ s.violations, r.severity = .minor
  exitCode_zero : s.exitCode = 0 ↔ ∀ r ∈ s.violations, r.severity = .info

variable {t : FileTree} {e : Engine} {root : String} {p : Platform}

theorem evaluated_sublist : (e.evaluated p).Sublist (e.rulesFor p) :=
  evaluated_eq ▸ List.filter_sublist

theorem violations_sublist : (checkAll t e root p).value.Sublist (e.evaluated p) :=
  checkAll_eq_filter_evaluated ▸ List.filter_sublist

theorem length_evaluated : (e.evaluated p).length =
    (e.evaluated p).countP (fun r => (evaluateRule t e r root).value) +
      (checkAll t e root p).value.length := by
  rw [checkAll_eq_filter_evaluated, ← List.countP_eq_length_filter,
    List.length_eq_countP_add_countP fun r => (evaluateRule t e r root).value]
  simp [evaluateRule_value]

theorem addsUp_check (t : FileTree) (e : Engine) (root : String) (p : Platform) :
    AddsUp t e root p (check t e root p).value := by
  rw [check_value]
  generalize hfound : (checkAll t e root p).value = found
  have hchecked : (e.evaluated p).length = (e.evaluated p).countP (fun r =>
      (evaluateRule t e r root).value) + found.length := hfound ▸ length_evaluated
  obtain ⟨htwo, hone, hzero⟩ := CheckSummary.exitCode_ofViolations root p (e.evaluated p).length found
  exact {
    counts := CheckSummary.countOf_add found
    violations := (hfound ▸ violations_sublist).trans evaluated_sublist
    rulesChecked := (hfound ▸ violations_sublist).length_le
    passed := by
      rw [← evaluated_eq, CheckSummary.passed]
      exact Nat.sub_eq_of_eq_add hchecked
    exitCode_two := htwo
    exitCode_one := hone
    exitCode_zero := hzero }

theorem checkMany_value (roots : List String) :
    (checkMany t e p roots).value = roots.map fun root => (check t e root p).value := by
  induction roots with
  | nil => rfl
  | cons root rest ih => simp [checkMany, ih]

end Engine

namespace CommandLine

open Engine

theorem exitStatus_eq (ss : List CheckSummary) :
    exitStatus ss = (ss.map (·.exitCode)).max?.getD 0 := by
  cases ss with
  | nil => rfl
  | cons s rest =>
    rw [exitStatus, List.map_cons, List.max?_cons', List.foldl_cons, Nat.zero_max]
    rfl

theorem foldersNamed_of_isFolder {t : FileTree} {pattern : String} (h : t.isFolder pattern = true) :
    (foldersNamed t pattern).value = .ok [pattern] := by
  rw [foldersNamed, Traced.value_bind, if_pos h]
  rfl

theorem isFolder_of_mem_foldersNamed {t : FileTree} {pattern : String} {found : List String}
    (h : (foldersNamed t pattern).value = .ok found) :
    found ≠ [] ∧ ∀ root ∈ found, t.isFolder root = true := by
  by_cases hfolder : t.isFolder pattern = true
  · rw [foldersNamed_of_isFolder hfolder] at h
    obtain rfl := Except.ok.inj h
    simpa using hfolder
  · rw [foldersNamed, Traced.value_bind, if_neg hfolder] at h
    cases hp : Files.PathPattern.parse? pattern with
    | none => simp [hp] at h
    | some p =>
      -- a pattern looks for paths of any kind and keeps the folders in the end
      have hfound : ∀ root ∈ (p.folders t).value, t.isFolder root = true := by
        intro root hroot
        exact (List.mem_filter.mp hroot).2
      by_cases hempty : (p.folders t).value = []
      · simp [hp, hempty] at h
      · simp only [hp, Traced.value_bind, List.isEmpty_iff, hempty, if_false, Traced.value_pure,
          Except.ok.injEq] at h
        exact h ▸ ⟨hempty, hfound⟩

theorem projectFolders_cons (t : FileTree) (pattern : String) (rest : List String) :
    (projectFolders t (pattern :: rest)).value =
      match (foldersNamed t pattern).value, (projectFolders t rest).value with
      | .error f, _ => .error f
      | .ok _, .error f => .error f
      | .ok found, .ok more => .ok (found ++ more) := by
  rw [projectFolders, Traced.value_bind]
  cases (foldersNamed t pattern).value with
  | error f => rfl
  | ok found =>
    rw [Traced.value_bind]
    cases (projectFolders t rest).value <;> rfl

/-- Projects named by folders that are there are checked as they are named, in their order. -/
theorem projectFolders_of_folders {t : FileTree} {patterns : List String}
    (h : ∀ pattern ∈ patterns, t.isFolder pattern = true) :
    (projectFolders t patterns).value = .ok patterns := by
  induction patterns with
  | nil => rfl
  | cons pattern rest ih =>
    obtain ⟨hfirst, hrest⟩ := List.forall_mem_cons.mp h
    simp only [projectFolders_cons, foldersNamed_of_isFolder hfirst, ih hrest, List.singleton_append]

/-- However projects are named, only folders are checked, and one at least for each name. -/
theorem isFolder_of_mem_projectFolders {t : FileTree} {patterns roots : List String}
    (h : (projectFolders t patterns).value = .ok roots) :
    patterns.length ≤ roots.length ∧ ∀ root ∈ roots, t.isFolder root = true := by
  induction patterns generalizing roots with
  | nil =>
    obtain rfl := Except.ok.inj h
    simp
  | cons pattern rest ih =>
    rw [projectFolders_cons] at h
    cases hfound : (foldersNamed t pattern).value with
    | error f => simp [hfound] at h
    | ok found =>
      cases hmore : (projectFolders t rest).value with
      | error f => simp [hfound, hmore] at h
      | ok more =>
        obtain rfl : found ++ more = roots := by simpa [hfound, hmore] using h
        obtain ⟨hne, hfolders⟩ := isFolder_of_mem_foldersNamed hfound
        obtain ⟨hlen, hmores⟩ := ih hmore
        have hpos := List.length_pos_iff.mpr hne
        refine ⟨?_, List.forall_mem_append.mpr ⟨hfolders, hmores⟩⟩
        rw [List.length_cons, List.length_append]
        omega

theorem runCheck_code (t : FileTree) (env : Environment) (colored : Bool) (c : Config)
    (r : CheckRequest) :
    (runCheck t env colored c r).value.code =
      match (projectFolders t r.projects).value with
      | .error _ => 1
      | .ok roots => (roots.map fun root =>
          (check t (openWith t c).value root r.platform).value.exitCode).max?.getD 0 := by
  rw [runCheck, Traced.value_bind]
  cases (projectFolders t r.projects).value with
  | error f => rfl
  | ok roots =>
    -- the time that a check takes is put in afterwards and is not asked for the code
    have htime : ∀ s : CheckSummary, ({ s with duration := env.elapsed } : CheckSummary).exitCode =
        s.exitCode := fun _ => rfl
    simp [exitStatus_eq, checkMany_value, htime, Function.comp_def]

theorem runCheck_code_of_folders {t : FileTree} {r : CheckRequest}
    (h : ∀ pattern ∈ r.projects, t.isFolder pattern = true) (env : Environment) (colored : Bool)
    (c : Config) :
    (runCheck t env colored c r).value.code = (r.projects.map fun root =>
      (check t (openWith t c).value root r.platform).value.exitCode).max?.getD 0 := by
  rw [runCheck_code, projectFolders_of_folders h]

/-- The numbers in the summary of a check always fit together and fit the violations, which are rules
for the platform in their order. A check command ends with the largest exit code of its projects. -/
theorem check_addsUp_and_exits_with_max (t : FileTree) :
    (∀ e root p, AddsUp t e root p (check t e root p).value) ∧
    ∀ env colored c r, (runCheck t env colored c r).value.code =
      match (projectFolders t r.projects).value with
      | .error _ => 1
      | .ok roots => (roots.map fun root =>
          (check t (openWith t c).value root r.platform).value.exitCode).max?.getD 0 :=
  ⟨addsUp_check t, runCheck_code t⟩

end CommandLine
end StorePolicy

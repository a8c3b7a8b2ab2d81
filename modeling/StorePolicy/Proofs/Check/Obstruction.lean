import StorePolicy.Proofs.Check.Dangling
import StorePolicy.Proofs.Files.Ancestors

/-!
# Projects without links

In a tree without links a path leads to where its text does, so a contained target lies inside the
project unless the way to it is obstructed: it goes on below a file, or a name or the whole path
is none that files have. The sandbox makes a difference there only, and only to a leaf that wants its
target to be absent: without the sandbox whatever stands in the way counts as absent.
-/
namespace StorePolicy

open Files

namespace FileTree

def Obstructed (t : FileTree) (path : String) : Prop := ∃ f, f ≠ .notFound ∧ t.resolve path = .error f

variable {t : FileTree} {place q : FilePlace} {xs : List Move} {found : Bool} {path : String}

theorem not_obstructed_iff :
    ¬t.Obstructed path ↔ (∃ q, t.resolve path = .ok q) ∨ t.resolve path = .error .notFound := by
  unfold Obstructed
  cases t.resolve path with
  | ok q => simp
  | error f => simp

/-- The text of a path goes down from that of another, and is not used up before the other's is. -/
structure Below (t : FileTree) (root path : String) (ys : List Move) : Prop where
  ne_empty : path ≠ ""
  start : t.start path = t.start root
  steps : steps path = steps root ++ ys
  anchored : Location.Anchored path ∨ Files.steps root ≠ []

section Below

variable {root target : String} {base : FilePlace} {ys : List Move}

theorem below_join (hroot : root ≠ "") (htarget : Location.isAbsolute target = false) :
    t.Below root (Location.join root target) (Files.steps target) where
  ne_empty := Check.join_ne_empty hroot target
  start := by rw [FileTree.start, FileTree.start, Location.isAbsolute_join hroot htarget]
  steps := Location.steps_join hroot htarget
  anchored := or_iff_not_imp_right.2 fun hsteps =>
    Location.anchored_join hroot htarget (not_not.1 hsteps)

theorem Below.leadsTo_iff (h : t.Below root path ys) (hroot : t.resolve root = .ok base) :
    t.LeadsTo path found q ↔ t.Leads base ys found q := by
  rw [LeadsTo, h.start, h.steps]
  exact (leadsTo_of_resolve hroot).append_iff

theorem Below.parent? (h : t.Below root path ys) (hys : ys ≠ []) :
    ∃ p, Location.parent? path = some p ∧ t.Below root p ys.dropLast := by
  have hsplit : Files.steps path = Files.steps root ++ ys.dropLast ++ [ys.getLast hys] := by
    rw [h.steps, List.append_assoc, List.dropLast_append_getLast]
  obtain ⟨hnil, -⟩ | ⟨m, parts, hparts, hparent, hsteps⟩ := Location.parent?_cases path
  · simp [hnil] at hsplit
  · obtain ⟨hsteps, -⟩ := List.append_inj' (hsplit.symm.trans hsteps) rfl
    have hne : Location.assemble (Location.front path.toList).1 parts ≠ "" := by
      rcases h.anchored with hanchored | hroot
      · exact (Location.anchored_assemble hanchored hparts).1
      · intro hempty
        rw [hempty] at hsteps
        exact hroot (List.append_eq_nil_iff.1 hsteps).1
    refine ⟨_, hparent, hne, ?_, hsteps.symm, ?_⟩
    · rw [← h.start, FileTree.start, FileTree.start,
        (Location.isAbsolute_assemble hparts).resolve_left hne]
    · exact h.anchored.imp_left fun hanchored => (Location.anchored_assemble hanchored hparts).2

theorem Below.resolves (h : t.Below root path []) (hroot : t.resolve root = .ok base) :
    t.resolve path ≠ .error .notFound := by
  intro hmissing
  obtain ⟨q, hq⟩ := leadsTo_of_notFound h.ne_empty hmissing
  cases (((h.leadsTo_iff hroot).1 hq).unique .stop).1

end Below

end FileTree

namespace Check

open Condition FileTree

variable {s s' : Settings} {t : FileTree} {root target path : String} {base : FilePlace}

theorem placed_of_below (hlinks : t.NoLinks) (hroot : t.resolve root = .ok base) {ys : List Move}
    (hbelow : t.Below root path ys) (hdown : ∀ m ∈ ys, ∃ name, m = .down name) {q : FilePlace}
    (hq : t.resolve path = .ok q) : placed t base path = some true := by
  have hleads := (hbelow.leadsTo_iff hroot).1 (leadsTo_of_resolve hq)
  refine placed_eq_some_true_iff.2 ⟨q, hq, ?_⟩
  rw [hleads.eq_foldl hlinks]
  exact prefix_foldl_apply hdown

theorem nearest_of_below (hlinks : t.NoLinks) (hroot : t.resolve root = .ok base) {n : Nat}
    {ys : List Move} (hbelow : t.Below root path ys) (hlength : ys.length ≤ n)
    (hdown : ∀ m ∈ ys, ∃ name, m = .down name) (h : ¬t.Obstructed path) :
    (Location.ancestors path n).findSome? (placed t base) = some true := by
  -- a path that is missing has its parent below the root too, with one step less
  induction n generalizing path ys with
  | zero =>
    obtain rfl : ys = [] := List.eq_nil_of_length_eq_zero (Nat.le_zero.1 hlength)
    rcases not_obstructed_iff.1 h with ⟨q, hq⟩ | hmissing
    · simpa [Location.ancestors] using placed_of_below hlinks hroot hbelow hdown hq
    · exact absurd hmissing (hbelow.resolves hroot)
  | succ n ih =>
    rcases not_obstructed_iff.1 h with ⟨q, hq⟩ | hmissing
    · obtain ⟨rest, hpaths⟩ := ancestors_eq_cons path (n + 1)
      rw [hpaths, List.findSome?_cons, placed_of_below hlinks hroot hbelow hdown hq]
    · have hys : ys ≠ [] := by
        rintro rfl
        exact hbelow.resolves hroot hmissing
      obtain ⟨p, hparent, hup⟩ := hbelow.parent? hys
      rw [Location.ancestors, hparent, List.findSome?_cons, placed_eq_none_iff.2 hmissing]
      refine ih hup ?_ (fun m hm => hdown m ((List.dropLast_prefix ys).subset hm)) ?_
      · rw [List.length_dropLast]
        omega
      · exact not_obstructed_iff.2 (resolve_parent? hup.ne_empty hparent hmissing)

/-- In a project without links a contained target lies inside unless the way to it is obstructed. -/
theorem inside_iff_of_noLinks (hlinks : t.NoLinks) (hroot : t.resolve root = .ok base)
    (htarget : Location.isContained target = true) :
    inside t root target = true ↔ ¬t.Obstructed (Location.join root target) := by
  obtain ⟨hrelative, hdown⟩ := Location.steps_of_isContained htarget
  have hne := ne_empty_of_resolve hroot
  constructor
  · rintro hinside ⟨f, hf, hresolve⟩
    have hplaced : placed t base (Location.join root target) = some false := by
      unfold placed
      rw [hresolve]
      cases f with
      | notFound => exact absurd rfl hf
      | _ => rfl
    rw [inside_of_placed hroot hplaced] at hinside
    cases hinside
  · intro h
    have hlength := (length_steps_le target).trans (Location.length_lt_join hne hrelative)
    simp only [inside, hroot]
    rw [nearest_of_below hlinks hroot (below_join hne hrelative) hlength hdown h]
    rfl

-- by recursion on the tree: a composite joins the truths of its leaves
mutual
theorem truth_congr {c : Condition}
    (h : ∀ leaf ∈ c.leaves, ∀ target, leaf.target? = some target →
      leaf.truth s' t root = leaf.truth s t root) :
    c.truth s' t root = c.truth s t root := by
  cases c with
  | composite logic checks =>
    rw [truth, truth, truths_congr (by simpa [leaves] using h)]
  | _ => exact h _ List.mem_cons_self _ rfl

theorem truths_congr {cs : List Condition}
    (h : ∀ leaf ∈ leavesOf cs, ∀ target, leaf.target? = some target →
      leaf.truth s' t root = leaf.truth s t root) :
    truths s' t root cs = truths s t root cs := by
  cases cs with
  | nil => rfl
  | cons c rest =>
    rw [leavesOf, List.forall_mem_append] at h
    rw [truths, truths, truth_congr h.1, truths_congr h.2]
end

theorem verdict_of_obstructed {c : Condition} {strategies : List Path.Strategy}
    (hc : c.target? = some target) (h : t.Obstructed (Location.join root target)) :
    c.verdict t strategies root = true ↔ c = .fileNotExists target := by
  obtain ⟨f, -, hresolve⟩ := h
  refine verdict_of_absent hc ?_
  rw [exists?, stat, hresolve]
  rfl

theorem exists_build_withSandbox {c : Condition}
    (hcontained : ∀ target ∈ c.targets, Location.isContained target = true) {b : Bool} {k : Check}
    (h : (build (s.withSandbox b) c).value = .ok k) (b' : Bool) :
    ∃ k', (build (s.withSandbox b') c).value = .ok k' := by
  obtain ⟨hdepth, hleaves⟩ := builds_iff.1 ⟨k, h⟩
  refine builds_iff.2 ⟨hdepth, fun leaf hleaf => ?_⟩
  have hleaf' := hleaves leaf hleaf
  rw [replaces_of_contained hcontained hleaf] at hleaf'
  exact .inr (hleaf'.resolve_left Bool.false_ne_true)

theorem truth_guarded_iff (hlinks : t.NoLinks) (hroot : t.resolve root = .ok base)
    {leaf : Condition} (htarget : leaf.target? = some target)
    (hcontained : Location.isContained target = true) :
    leaf.truth (s.withSandbox true) t root = true ↔
      leaf.truth (s.withSandbox false) t root = true ∧
        ¬t.Obstructed (Location.join root target) := by
  rw [truth_eq_leafTruth htarget, truth_eq_leafTruth htarget,
    ← inside_iff_of_noLinks hlinks hroot hcontained]
  simp [leafTruth, Settings.withSandbox, hcontained, and_comm]

theorem truth_guarded_eq_iff (hlinks : t.NoLinks) (hroot : t.resolve root = .ok base)
    {leaf : Condition} (htarget : leaf.target? = some target)
    (hcontained : Location.isContained target = true) :
    leaf.truth (s.withSandbox true) t root = leaf.truth (s.withSandbox false) t root ↔
      (leaf = .fileNotExists target → ¬t.Obstructed (Location.join root target)) := by
  rw [Bool.eq_iff_iff, truth_guarded_iff hlinks hroot htarget hcontained]
  have hopen : leaf.truth (s.withSandbox false) t root = leaf.verdict t s.strategies root := by
    rw [truth_eq_leafTruth htarget]
    simp [leafTruth, Settings.withSandbox]
  rw [hopen]
  constructor
  · intro h hleaf hobstructed
    exact (h.2 ((verdict_of_obstructed htarget hobstructed).2 hleaf)).2 hobstructed
  · intro h
    refine ⟨And.left, fun hverdict => ⟨hverdict, fun hobstructed => ?_⟩⟩
    exact h ((verdict_of_obstructed htarget hobstructed).1 hverdict) hobstructed

/-- In a project without links, conditions with contained targets find the same with the sandbox on
and off, except for leaves that want a target to be absent to which the way is obstructed: such a
leaf is true without the sandbox and false with it. -/
theorem run_withSandbox_eq_iff (hlinks : t.NoLinks) (hroot : t.resolve root = .ok base) (s : Settings)
    {c : Condition} (hcontained : ∀ target ∈ c.targets, Location.isContained target = true)
    {b : Bool} {k₀ : Check} (hbuilds : (build (s.withSandbox b) c).value = .ok k₀) :
    (∃ k k', (build (s.withSandbox false) c).value = .ok k ∧
      (build (s.withSandbox true) c).value = .ok k' ∧
      ((∀ target, .fileNotExists target ∈ c.leaves →
          ¬t.Obstructed (Location.join root target)) →
        (k'.run t root).value = (k.run t root).value)) ∧
    ∀ leaf ∈ c.leaves, ∀ target, leaf.target? = some target →
      ∃ k k', (build (s.withSandbox false) leaf).value = .ok k ∧
        (build (s.withSandbox true) leaf).value = .ok k' ∧
        ((k'.run t root).value = true ↔
          (k.run t root).value = true ∧ ¬t.Obstructed (Location.join root target)) ∧
        ((k'.run t root).value = (k.run t root).value ↔
          (leaf = .fileNotExists target → ¬t.Obstructed (Location.join root target))) := by
  have hinside : ∀ leaf ∈ c.leaves, ∀ target, leaf.target? = some target →
      Location.isContained target = true := fun leaf hleaf target htarget =>
    hcontained target (List.mem_filterMap.2 ⟨leaf, hleaf, htarget⟩)
  obtain ⟨k, hk⟩ := exists_build_withSandbox hcontained hbuilds false
  obtain ⟨k', hk'⟩ := exists_build_withSandbox hcontained hbuilds true
  constructor
  · refine ⟨k, k', hk, hk', fun hclear => ?_⟩
    rw [run_buildAt 1 c hk, run_buildAt 1 c hk']
    refine truth_congr fun leaf hleaf target htarget => ?_
    refine (truth_guarded_eq_iff hlinks hroot htarget (hinside leaf hleaf target htarget)).2 ?_
    rintro rfl
    exact hclear target hleaf
  · intro leaf hleaf target htarget
    obtain ⟨ℓ, hℓ⟩ := exists_build_of_mem_leaves hk hleaf htarget
    obtain ⟨ℓ', hℓ'⟩ := exists_build_of_mem_leaves hk' hleaf htarget
    have htarget' := hinside leaf hleaf target htarget
    refine ⟨ℓ, ℓ', hℓ, hℓ', ?_⟩
    rw [run_buildAt 1 leaf hℓ, run_buildAt 1 leaf hℓ']
    exact ⟨truth_guarded_iff hlinks hroot htarget htarget',
      truth_guarded_eq_iff hlinks hroot htarget htarget'⟩

theorem run_withSandbox_eq_iff_of_missing_folder :
    let t : FileTree := ⟨[(["p"], .folder), (["p", "a"], .file ⟨#[]⟩)], []⟩
    let c : Condition := .composite .allOf [.fileExists "a", .fileNotExists "b/c"]
    t.NoLinks ∧ t.resolve "p" = .ok ["p"] ∧
      (∀ target ∈ c.targets, Location.isContained target = true) ∧
      ∃ k k', (build (Settings.usual.withSandbox false) c).value = .ok k ∧
        (build (Settings.usual.withSandbox true) c).value = .ok k' ∧
        (k'.run t "p").value = (k.run t "p").value := by
  intro t c
  have hlinks : t.NoLinks := noLinks_of_entries (by simp [t])
  have hmoves : moves "p" = [.down "p"] ∧ moves "p/b/c" = [.down "p", .down "b", .down "c"] := by
    decide
  have hrefuses : refuses "p" = none ∧ refuses "p/b/c" = none := by decide
  have hrelative : Location.isAbsolute "p" = false ∧ Location.isAbsolute "p/b/c" = false := by
    decide
  have hbytes : "p".utf8ByteSize = 1 ∧ "b".utf8ByteSize = 1 := ⟨rfl, rfl⟩
  have hjoin : Location.join "p" "b/c" = "p/b/c" := by decide
  obtain ⟨hroot, hmissing⟩ : t.resolve "p" = .ok ["p"] ∧ t.resolve "p/b/c" = .error .notFound := by
    simp [FileTree.resolve, FileTree.follow, FileTree.start, FileTree.isFolderAt,
      FileTree.entry?, hmoves, hrefuses, hbytes, hrelative, t, List.lookup_cons, maxNameBytes,
      maxLinks]
  have hcontained : ∀ target ∈ c.targets, Location.isContained target = true := by decide
  have hbuilds : (build (Settings.usual.withSandbox true) c).value =
      .ok (.composite .allOf [.guarded "a" (.presence true), .guarded "b/c" (.presence false)]) :=
    rfl
  obtain ⟨k, k', hk, hk', hsame⟩ :=
    (run_withSandbox_eq_iff hlinks hroot Settings.usual hcontained hbuilds).1
  refine ⟨hlinks, hroot, hcontained, k, k', hk, hk', hsame fun target htarget => ?_⟩
  obtain rfl : target = "b/c" := by simpa [c, leaves, leavesOf] using htarget
  rw [hjoin, not_obstructed_iff]
  exact .inr hmissing

/-- A target below a file is absent, but only the check without the sandbox finds it so. -/
theorem not_transparent_below_file :
    let t : FileTree := ⟨[(["p"], .folder), (["p", "a"], .file ⟨#[]⟩)], []⟩
    let c : Condition := .fileNotExists "a/b"
    t.NoLinks ∧ t.isFolder "p" = true ∧ (∀ target ∈ c.targets, Location.isContained target = true) ∧
      t.exists? (Location.join "p" "a/b") = false ∧
      ∃ k k', (build (Settings.usual.withSandbox false) c).value = .ok k ∧
        (build (Settings.usual.withSandbox true) c).value = .ok k' ∧
        (k.run t "p").value = true ∧ (k'.run t "p").value = false := by
  intro t c
  have hlinks : t.NoLinks := noLinks_of_entries (by simp [t])
  have hmoves : moves "p" = [.down "p"] ∧ moves "p/a/b" = [.down "p", .down "a", .down "b"] := by
    decide
  have hrefuses : refuses "p" = none ∧ refuses "p/a/b" = none := by decide
  have hrelative : Location.isAbsolute "p" = false ∧ Location.isAbsolute "p/a/b" = false := by
    decide
  have hbytes : "p".utf8ByteSize = 1 ∧ "a".utf8ByteSize = 1 := ⟨rfl, rfl⟩
  have hjoin : Location.join "p" "a/b" = "p/a/b" := by decide
  obtain ⟨hroot, hbelow⟩ : t.resolve "p" = .ok ["p"] ∧ t.resolve "p/a/b" = .error .notFolder := by
    simp [FileTree.resolve, FileTree.follow, FileTree.start, FileTree.isFolderAt,
      FileTree.entry?, hmoves, hrefuses, hbytes, hrelative, t, List.lookup_cons, maxNameBytes,
      maxLinks]
  have hfolder : t.isFolder "p" = true := by
    rw [FileTree.isFolder, FileTree.stat, hroot]
    rfl
  have hcontained : ∀ target ∈ c.targets, Location.isContained target = true := by decide
  have hobstructed : t.Obstructed (Location.join "p" "a/b") := by
    rw [hjoin]
    exact ⟨_, by simp, hbelow⟩
  have hopen : (build (Settings.usual.withSandbox false) c).value =
      .ok (.probe "a/b" (.presence false)) := rfl
  have hguarded : (build (Settings.usual.withSandbox true) c).value =
      .ok (.guarded "a/b" (.presence false)) := rfl
  have habsent : t.exists? (Location.join "p" "a/b") = false := by
    rw [hjoin, exists?, stat, hbelow]
    rfl
  refine ⟨hlinks, hfolder, hcontained, habsent, _, _, hopen, hguarded, ?_, ?_⟩
  · simp [run, Probe.run, habsent]
  · rw [run_buildAt 1 c hguarded, ← Bool.not_eq_true]
    intro htrue
    exact ((truth_guarded_iff hlinks hroot rfl (hcontained "a/b" List.mem_cons_self)).1 htrue).2
      hobstructed

end Check
end StorePolicy

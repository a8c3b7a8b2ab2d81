import StorePolicy.Proofs.Check.Faults
import StorePolicy.Proofs.Check.Meaning
import StorePolicy.Proofs.Files.Landing

/-!
# The sandbox

A check that is built with the sandbox on opens only targets of its leaves that lie inside the
project, by their text and by the files. What it opens with success is at a place below the root,
and nothing else of the files has a part in what it finds.
-/
namespace StorePolicy

open Files

namespace Traced

variable {α β : Type} {P Q : String → Prop}

def OpensOnly (P : String → Prop) (x : Traced α) : Prop := ∀ path, .opened path ∈ x.trace → P path

theorem opensOnly_pure (a : α) : (pure a : Traced α).OpensOnly P := by
  simp [OpensOnly]

theorem OpensOnly.bind {x : Traced α} {f : α → Traced β} (hx : x.OpensOnly P)
    (hf : (f x.value).OpensOnly P) : (x >>= f).OpensOnly P := by
  intro path hpath
  rw [trace_bind, List.mem_append] at hpath
  exact hpath.elim (hx path) (hf path)

theorem OpensOnly.imp {x : Traced α} (hx : x.OpensOnly P) (h : ∀ path, P path → Q path) :
    x.OpensOnly Q :=
  fun path hpath => h path (hx path hpath)

theorem opensOnly_log (level : Log.Level) (message : String) :
    (log level message).OpensOnly P := by
  simp [OpensOnly, log]

theorem opensOnly_logAll (ls : List Log.Line) : (logAll ls).OpensOnly P := by
  simp [OpensOnly, logAll]

theorem opensOnly_noteLocated (path : String) : (noteLocated path).OpensOnly P := by
  simp [OpensOnly, noteLocated]

theorem opensOnly_noteOpened {path : String} (h : P path) : (noteOpened path).OpensOnly P := by
  simpa [OpensOnly, noteOpened] using h

end Traced

namespace Check

open Condition Traced

variable {s : Settings} {t t' : FileTree} {root target path : String} {base : FilePlace}

section Opened

variable {P : String → Prop}

theorem nearestInside_opensOnly (paths : List String) :
    (nearestInside t base paths).OpensOnly P := by
  induction paths with
  | nil => exact opensOnly_pure _
  | cons path rest ih =>
    unfold nearestInside
    refine (opensOnly_noteLocated path).bind ?_
    split
    · exact opensOnly_pure _
    · exact ih
    · exact (opensOnly_log _ _).bind (opensOnly_pure _)

theorem resolvesInside_opensOnly : (resolvesInside t root target).OpensOnly P := by
  unfold resolvesInside
  refine (opensOnly_noteLocated root).bind ?_
  split
  · exact nearestInside_opensOnly _
  · exact (opensOnly_log _ _).bind (opensOnly_pure _)

theorem readTarget_opensOnly (h : P (Location.join root target)) :
    (readTarget t root target).OpensOnly P := by
  unfold readTarget
  refine (opensOnly_noteOpened h).bind ?_
  split
  · exact opensOnly_pure _
  · exact (opensOnly_log _ _).bind (opensOnly_pure _)

theorem malformed_opensOnly (format cause : String) :
    (malformed format target cause).OpensOnly P :=
  (opensOnly_log _ _).bind (opensOnly_pure _)

theorem run_probe_opensOnly (p : Probe) (h : P (Location.join root target)) :
    (p.run t root target).OpensOnly P := by
  cases p with
  | presence expected => exact (opensOnly_noteOpened h).bind (opensOnly_pure _)
  | json path strategies test =>
    refine (readTarget_opensOnly h).bind ?_
    split
    · exact opensOnly_pure _
    · split
      · exact malformed_opensOnly _ _
      · exact (opensOnly_logAll _).bind (opensOnly_pure _)
  | yaml path =>
    refine (readTarget_opensOnly h).bind ?_
    split
    · exact opensOnly_pure _
    · split
      · exact malformed_opensOnly _ _
      · exact opensOnly_pure _
  | xml path =>
    refine (readTarget_opensOnly h).bind ?_
    split
    · exact opensOnly_pure _
    · split
      · exact malformed_opensOnly _ _
      · exact opensOnly_pure _
  | text pattern =>
    refine (readTarget_opensOnly h).bind ?_
    split <;> exact opensOnly_pure _

def IsTargetInside (t : FileTree) (root : String) (leaves : List Condition) (path : String) :
    Prop :=
  ∃ leaf ∈ leaves, ∃ target, leaf.target? = some target ∧ path = Location.join root target ∧
    Location.isContained target = true ∧ inside t root target = true

theorem run_buildLeaf_opensOnly (hs : s.sandbox = true) {c : Condition}
    (hc : c.target? = some target) {k : Check} (h : (buildLeaf s c target).value = .ok k) :
    (k.run t root).OpensOnly (IsTargetInside t root [c]) := by
  unfold buildLeaf at h
  cases hcontained : Location.isContained target with
  | false =>
    obtain rfl : Check.escaped = k := by simpa [hs, hcontained] using h
    exact opensOnly_pure _
  | true =>
    rw [if_neg (by simp [hcontained])] at h
    cases hprobe : probe? s c with
    | error f => simp [hprobe] at h
    | ok o =>
      cases o with
      | none =>
        obtain rfl : Check.escaped = k := by simpa [hprobe] using h
        exact opensOnly_pure _
      | some p =>
        obtain rfl : Check.guarded target p = k := by simpa [hprobe, hs] using h
        refine resolvesInside_opensOnly.bind ?_
        rw [resolvesInside_value]
        cases hinside : inside t root target with
        | true =>
          exact run_probe_opensOnly p
            ⟨c, List.mem_singleton_self c, target, hc, rfl, hcontained, hinside⟩
        | false => exact (opensOnly_log _ _).bind (opensOnly_pure _)

theorem IsTargetInside.mono {cs ds : List Condition} (h : cs ⊆ ds)
    (hpath : IsTargetInside t root cs path) : IsTargetInside t root ds path := by
  obtain ⟨leaf, hleaf, htarget⟩ := hpath
  exact ⟨leaf, h hleaf, htarget⟩

-- by recursion on the tree: a composite opens what its children open
mutual
theorem run_buildAt_opensOnly (hs : s.sandbox = true) (depth : Nat) (c : Condition) {k : Check}
    (h : (buildAt s depth c).value = .ok k) :
    (k.run t root).OpensOnly (IsTargetInside t root c.leaves) := by
  cases c with
  | composite logic checks =>
    obtain ⟨-, built, hbuilt, rfl⟩ := buildAt_composite_eq_ok_iff.1 h
    exact (runUntil_buildAll_opensOnly hs (depth + 1) checks logic.decisive hbuilt).bind
      (opensOnly_pure _)
  | _ => exact run_buildLeaf_opensOnly hs rfl (buildLeaf_of_buildAt rfl h)

theorem runUntil_buildAll_opensOnly (hs : s.sandbox = true) (depth : Nat) (cs : List Condition)
    (wanted : Bool) {ks : List Check} (h : (buildAll s depth cs).value = .ok ks) :
    (runUntil t root wanted ks).OpensOnly (IsTargetInside t root (leavesOf cs)) := by
  cases cs with
  | nil =>
    obtain rfl : [] = ks := by simpa [buildAll] using h
    exact opensOnly_pure _
  | cons c rest =>
    obtain ⟨k, built, hfirst, hrest, rfl⟩ := buildAll_cons_eq_ok_iff.1 h
    have hk := (run_buildAt_opensOnly hs depth c hfirst).imp fun path =>
      IsTargetInside.mono (List.subset_append_left c.leaves (leavesOf rest))
    refine hk.bind ?_
    split
    · exact opensOnly_pure _
    · exact (runUntil_buildAll_opensOnly hs depth rest wanted hrest).imp fun path =>
        IsTargetInside.mono (List.subset_append_right c.leaves (leavesOf rest))
end

end Opened

section Agreeing

variable {α β : Type} {trace trace' : List Event}

/-- Another tree of files answers all that is asked in a trace in the same way. -/
structure Agrees (t t' : FileTree) (trace : List Event) : Prop where
  resolve : ∀ path, .located path ∈ trace → t'.resolve path = t.resolve path
  stat : ∀ path, .opened path ∈ trace → t'.stat path = t.stat path

theorem Agrees.of_subset (h : Agrees t t' trace) (hsub : trace' ⊆ trace) : Agrees t t' trace' :=
  ⟨fun path hpath => h.resolve path (hsub hpath), fun path hpath => h.stat path (hsub hpath)⟩

theorem Agrees.bind {x x' : Traced α} {f f' : α → Traced β} (h : Agrees t t' (x >>= f).trace)
    (hx : Agrees t t' x.trace → x' = x)
    (hf : Agrees t t' (f x.value).trace → f' x.value = f x.value) : x' >>= f' = x >>= f := by
  rw [trace_bind] at h
  obtain rfl := hx (h.of_subset (List.subset_append_left _ _))
  have hrest := hf (h.of_subset (List.subset_append_right _ _))
  simp only [Bind.bind, hrest]

theorem nearestInside_congr {paths : List String}
    (h : Agrees t t' (nearestInside t base paths).trace) :
    nearestInside t' base paths = nearestInside t base paths := by
  induction paths with
  | nil => rfl
  | cons path rest ih =>
    have hpath : t'.resolve path = t.resolve path :=
      h.resolve path (by simp [nearestInside, noteLocated])
    unfold nearestInside at h ⊢
    refine h.bind (fun _ => rfl) fun h => ?_
    rw [hpath]
    split at h
    · rfl
    · exact ih h
    · rfl

theorem resolvesInside_congr (h : Agrees t t' (resolvesInside t root target).trace) :
    resolvesInside t' root target = resolvesInside t root target := by
  have hroot : t'.resolve root = t.resolve root :=
    h.resolve root (by simp [resolvesInside, noteLocated])
  unfold resolvesInside at h ⊢
  refine h.bind (fun _ => rfl) fun h => ?_
  rw [hroot]
  split at h
  · exact nearestInside_congr h
  · rfl

theorem readTarget_congr (h : Agrees t t' (readTarget t root target).trace) :
    readTarget t' root target = readTarget t root target := by
  have htext : t'.readText (Location.join root target) =
      t.readText (Location.join root target) := by
    unfold FileTree.readText FileTree.readBytes
    rw [h.stat _ (by simp [readTarget, noteOpened])]
  simp only [readTarget, htext]

theorem run_probe_congr {p : Probe} (h : Agrees t t' (p.run t root target).trace) :
    p.run t' root target = p.run t root target := by
  cases p with
  | presence expected =>
    have hstat := h.stat (Location.join root target) (by simp [Probe.run, noteOpened])
    simp only [Probe.run, FileTree.exists?, hstat]
  | json path strategies test => exact h.bind readTarget_congr fun _ => rfl
  | yaml path => exact h.bind readTarget_congr fun _ => rfl
  | xml path => exact h.bind readTarget_congr fun _ => rfl
  | text pattern => exact h.bind readTarget_congr fun _ => rfl

mutual
/-- What a check finds depends on nothing but what its trace shows. -/
theorem run_congr {k : Check} (h : Agrees t t' (k.run t root).trace) :
    k.run t' root = k.run t root := by
  cases k with
  | probe target p => exact run_probe_congr h
  | guarded target p =>
    refine h.bind resolvesInside_congr fun h => ?_
    split at h
    · next hinside =>
      rw [if_pos hinside, if_pos hinside]
      exact run_probe_congr h
    · next houtside => rw [if_neg houtside, if_neg houtside]
  | escaped => rfl
  | composite logic checks => exact h.bind runUntil_congr fun _ => rfl

theorem runUntil_congr {wanted : Bool} {ks : List Check}
    (h : Agrees t t' (runUntil t root wanted ks).trace) :
    runUntil t' root wanted ks = runUntil t root wanted ks := by
  cases ks with
  | nil => rfl
  | cons k rest =>
    refine h.bind run_congr fun h => ?_
    split at h
    · next hwanted => rw [if_pos hwanted, if_pos hwanted]
    · next hwanted =>
      rw [if_neg hwanted, if_neg hwanted]
      exact runUntil_congr h
end

end Agreeing

section Inside

variable {place : FilePlace}

theorem ancestors_eq_cons (path : String) (n : Nat) :
    ∃ rest, Location.ancestors path n = path :: rest := by
  cases n with
  | zero => exact ⟨[], rfl⟩
  | succ n =>
    rw [Location.ancestors]
    cases Location.parent? path with
    | none => exact ⟨[], rfl⟩
    | some p => exact ⟨_, rfl⟩

theorem resolvesInside_of_resolve (hroot : t.resolve root = .ok base)
    (hplace : t.resolve (Location.join root target) = .ok place) :
    resolvesInside t root target =
      ⟨base.isPrefixOf place, [.located root, .located (Location.join root target)]⟩ := by
  obtain ⟨rest, hpaths⟩ := ancestors_eq_cons (Location.join root target)
    (Location.join root target).length
  simp only [resolvesInside, hroot, hpaths, nearestInside, hplace]
  rfl

theorem inside_of_placed {b : Bool} (hroot : t.resolve root = .ok base)
    (h : placed t base (Location.join root target) = some b) : inside t root target = b := by
  obtain ⟨rest, hpaths⟩ := ancestors_eq_cons (Location.join root target)
    (Location.join root target).length
  simp [inside, hroot, hpaths, h]

theorem join_ne_empty (h : root ≠ "") (target : String) : Location.join root target ≠ "" := by
  have hempty : root.isEmpty = false := by simpa using h
  unfold Location.join
  split
  · next habsolute =>
    rintro rfl
    rw [hempty, Bool.or_false] at habsolute
    cases habsolute
  · split <;> simp [String.append_eq_empty_iff, h]

theorem inside_eq_false_of_leadsTo (hroot : t.resolve root = .ok base)
    (hplace : t.LeadsTo (Location.join root target) true place) (hout : ¬base <+: place) :
    inside t root target = false := by
  refine inside_of_placed hroot ?_
  unfold placed
  cases hpath : t.resolve (Location.join root target) with
  | ok q =>
    obtain ⟨-, rfl⟩ := (FileTree.leadsTo_of_resolve hpath).unique hplace
    have hprefix : base.isPrefixOf q = false := by
      rw [← Bool.not_eq_true, List.isPrefixOf_iff_prefix]
      exact hout
    exact congrArg some hprefix
  | error f =>
    cases f with
    | notFound =>
      have hne := join_ne_empty (FileTree.ne_empty_of_resolve hroot) target
      obtain ⟨q, hq⟩ := FileTree.leadsTo_of_notFound hne hpath
      cases (hq.unique hplace).1
    | _ => rfl

theorem exists_base_of_inside (h : inside t root target = true) :
    ∃ base, t.resolve root = .ok base := by
  unfold inside at h
  split at h
  · next base hroot => exact ⟨base, hroot⟩
  · cases h

theorem truth_eq_leafTruth {c : Condition} (hc : c.target? = some target) :
    c.truth s t root = leafTruth s t root target c := by
  cases c with
  | composite logic checks => cases hc
  | _ =>
    cases hc
    rfl

theorem exists_build_of_mem_leaves {c leaf : Condition} {k : Check}
    (hk : (build s c).value = .ok k) (hleaf : leaf ∈ c.leaves)
    (htarget : leaf.target? = some target) :
    ∃ k', (build s leaf).value = .ok k' := by
  obtain ⟨hdepth, hleaves⟩ := builds_iff.1 ⟨k, hk⟩
  have hleaf' : leaf.depth = 1 ∧ leaf.leaves = [leaf] := by
    cases leaf with
    | composite logic checks => cases htarget
    | _ => exact ⟨rfl, rfl⟩
  refine builds_iff.2 ⟨hleaf'.1 ▸ c.one_le_depth.trans hdepth, ?_⟩
  rw [hleaf'.2, List.forall_mem_singleton]
  exact hleaves leaf hleaf

end Inside

/-- With the sandbox on, whatever a check opens with success is at the place of the root or below
it, with all links followed. A leaf is false if its target leads to a place elsewhere with all
names found. What is found and noted depends on nothing but the answers to what the trace shows
to be asked. -/
theorem run_opens_inside_root (hs : s.sandbox = true) {c : Condition} {k : Check}
    (hk : (build s c).value = .ok k) (t : FileTree) (root : String) :
    (∀ path, .opened path ∈ (k.run t root).trace → (t.stat path).isOk = true →
      ∃ base place, t.resolve root = .ok base ∧ t.resolve path = .ok place ∧
        t.LeadsTo path true place ∧ base <+: place) ∧
    (∀ leaf ∈ c.leaves, ∀ target base place, leaf.target? = some target →
      t.resolve root = .ok base → t.LeadsTo (Location.join root target) true place →
      ¬base <+: place →
        ∃ k', (build s leaf).value = .ok k' ∧ (k'.run t root).value = false) ∧
    ∀ t', Agrees t t' (k.run t root).trace → k.run t' root = k.run t root := by
  refine ⟨?_, ?_, fun t' h => run_congr h⟩
  · intro path hpath hstat
    obtain ⟨leaf, -, target, -, rfl, -, hinside⟩ := run_buildAt_opensOnly hs 1 c hk path hpath
    obtain ⟨base, hroot⟩ := exists_base_of_inside hinside
    have hplace : ∃ place, t.resolve (Location.join root target) = .ok place := by
      unfold FileTree.stat at hstat
      cases hresolve : t.resolve (Location.join root target) with
      | ok place => exact ⟨place, rfl⟩
      | error f =>
        rw [hresolve] at hstat
        cases hstat
    obtain ⟨place, hplace⟩ := hplace
    have hleads := FileTree.leadsTo_of_resolve hplace
    refine ⟨base, place, hroot, hplace, hleads, by_contra fun hout => ?_⟩
    rw [inside_eq_false_of_leadsTo hroot hleads hout] at hinside
    cases hinside
  · intro leaf hleaf target base place htarget hroot hplace hout
    obtain ⟨k', hk'⟩ := exists_build_of_mem_leaves hk hleaf htarget
    refine ⟨k', hk', ?_⟩
    rw [run_buildAt 1 leaf hk', truth_eq_leafTruth htarget, leafTruth,
      inside_eq_false_of_leadsTo hroot hplace hout]
    simp [hs]

theorem run_opens_inside_root_of_link_out :
    let t : FileTree := ⟨[(["p"], .folder), (["p", "u"], .link ".."), (["s"], .file ⟨#[]⟩),
      (["p", "a"], .file ⟨#[]⟩)], []⟩
    let t' : FileTree := { t with entries := t.entries ++ [(["x"], .folder)] }
    let c : Condition := .composite .anyOf [.fileExists "u/s", .fileExists "a"]
    let k : Check :=
      .composite .anyOf [.guarded "u/s" (.presence true), .guarded "a" (.presence true)]
    (build .usual c).value = .ok k ∧
      (∃ base place, t.resolve "p" = .ok base ∧ t.resolve "p/a" = .ok place ∧
        t.LeadsTo "p/a" true place ∧ base <+: place) ∧
      (∃ k', (build .usual (.fileExists "u/s")).value = .ok k' ∧ (k'.run t "p").value = false) ∧
      k.run t' "p" = k.run t "p" := by
  intro t t' c k
  have hbuild : (build .usual c).value = .ok k := rfl
  obtain ⟨hopened, hleaf, hagrees⟩ := run_opens_inside_root (s := .usual) rfl hbuild t "p"
  have hmoves : moves "p" = [.down "p"] ∧ moves "p/u/s" = [.down "p", .down "u", .down "s"] ∧
      moves "p/a" = [.down "p", .down "a"] ∧ moves ".." = [.up] := by decide
  have hrefuses : refuses "p" = none ∧ refuses "p/u/s" = none ∧ refuses "p/a" = none := by
    decide
  have hrelative : ∀ path ∈ ["p", "p/u/s", "p/a", ".."], Location.isAbsolute path = false := by
    decide
  have hbytes : "p".utf8ByteSize = 1 ∧ "u".utf8ByteSize = 1 ∧ "s".utf8ByteSize = 1 ∧
      "a".utf8ByteSize = 1 := ⟨rfl, rfl, rfl, rfl⟩
  have hjoin : Location.join "p" "u/s" = "p/u/s" ∧ Location.join "p" "a" = "p/a" := by
    decide
  simp only [List.forall_mem_cons] at hrelative
  have hresolve : ∀ tree ∈ [t, t'], tree.resolve "p" = .ok ["p"] ∧
      tree.resolve "p/u/s" = .ok ["s"] ∧ tree.resolve "p/a" = .ok ["p", "a"] := by
    intro tree htree
    simp only [List.mem_cons, List.not_mem_nil, or_false] at htree
    rcases htree with rfl | rfl <;>
      simp [FileTree.resolve, FileTree.follow, FileTree.start, FileTree.isFolderAt,
        FileTree.entry?, hmoves, hrefuses, hbytes, hrelative, t, t', List.lookup_cons, maxNameBytes,
        maxLinks]
  have hstat : ∀ tree ∈ [t, t'], tree.stat "p/a" = .ok (.file ⟨#[]⟩) := by
    intro tree htree
    rw [FileTree.stat, (hresolve tree htree).2.2]
    simp only [List.mem_cons, List.not_mem_nil, or_false] at htree
    rcases htree with rfl | rfl <;> rfl
  obtain ⟨hbase, hout, hfile⟩ := hresolve t (by simp)
  have hstat_t := hstat t (by simp)
  have hfirst : run t "p" (.guarded "u/s" (.presence true)) = ⟨false, [.located "p",
      .located "p/u/s",
      .logged ⟨.warn, "Target 'u/s' resolves outside p; the check will fail"⟩]⟩ := by
    have hprefix : ["p"].isPrefixOf ["s"] = false := by decide
    rw [run, resolvesInside_of_resolve hbase (hjoin.1 ▸ hout), hprefix, hjoin.1]
    rfl
  have hsecond : run t "p" (.guarded "a" (.presence true)) =
      ⟨true, [.located "p", .located "p/a", .opened "p/a"]⟩ := by
    have hprefix : ["p"].isPrefixOf ["p", "a"] = true := by decide
    rw [run, resolvesInside_of_resolve hbase (hjoin.2 ▸ hfile), hprefix, Probe.run, hjoin.2,
      FileTree.exists?, hstat_t]
    rfl
  have hboth : runUntil t "p" true
      [.guarded "u/s" (.presence true), .guarded "a" (.presence true)] = ⟨true,
      [.located "p", .located "p/u/s",
        .logged ⟨.warn, "Target 'u/s' resolves outside p; the check will fail"⟩,
        .located "p", .located "p/a", .opened "p/a"]⟩ := by
    rw [runUntil, hfirst, runUntil, hsecond]
    rfl
  have htrace : (k.run t "p").trace = [.located "p", .located "p/u/s",
      .logged ⟨.warn, "Target 'u/s' resolves outside p; the check will fail"⟩,
      .located "p", .located "p/a", .opened "p/a"] := by
    rw [run]
    exact (List.append_nil _).trans (congrArg Traced.trace hboth)
  have hagree : Agrees t t' (k.run t "p").trace := by
    obtain ⟨hbase', hout', hfile'⟩ := hresolve t' (by simp)
    rw [htrace]
    constructor
    · intro path hpath
      obtain rfl | rfl | rfl | rfl :
          path = "p" ∨ path = "p/u/s" ∨ path = "p" ∨ path = "p/a" := by simpa using hpath
      · rw [hbase, hbase']
      · rw [hout, hout']
      · rw [hbase, hbase']
      · rw [hfile, hfile']
    · intro path hpath
      obtain rfl : path = "p/a" := by simpa using hpath
      rw [hstat_t, hstat t' (by simp)]
  have houtside : t.LeadsTo (Location.join "p" "u/s") true ["s"] :=
    hjoin.1 ▸ FileTree.leadsTo_of_resolve hout
  refine ⟨hbuild, hopened "p/a" (by simp [htrace]) (by rw [hstat_t]; rfl), ?_,
    hagrees t' hagree⟩
  exact hleaf _ List.mem_cons_self "u/s" ["p"] ["s"] rfl hbase houtside (by decide)

end Check
end StorePolicy

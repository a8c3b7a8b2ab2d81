import StorePolicy.Proofs.Check.Sandbox

/-!
# Links to nothing

A target that does not exist is judged by the nearest of its ancestors that does, so it counts as
inside where the file would be made inside. A link to nothing on the way is taken for a missing
name there: its text is not followed, and the target leads inside only if that text does.
-/
namespace StorePolicy.Check

open Condition Files FileTree

variable {t : FileTree} {root target path : String} {base place : FilePlace}

theorem placed_eq_some_true_iff :
    placed t base path = some true ↔ ∃ place, t.resolve path = .ok place ∧ base <+: place := by
  unfold placed
  cases hpath : t.resolve path with
  | ok place => simp
  | error f => cases f <;> simp

theorem placed_eq_none_iff : placed t base path = none ↔ t.resolve path = .error .notFound := by
  unfold placed
  cases hpath : t.resolve path with
  | ok place => simp
  | error f => cases f <;> simp

theorem findSome?_placed_empty (n : Nat) :
    (Location.ancestors "" n).findSome? (placed t base) = none := by
  cases n <;> rfl

/-- The first of some steps lead to a place in the project, and the step after them comes to a name
that is missing. -/
def Stops (t : FileTree) (base start : FilePlace) (xs : List Move) : Prop :=
  ∃ before after place, xs = before ++ after ∧ t.Leads start before true place ∧ base <+: place ∧
    ∀ m ∈ after.head?, ∃ q, t.Leads place [m] false q

theorem stops_of_placed (h : placed t base path = some true) :
    Stops t base (t.start path) (steps path) := by
  obtain ⟨place, hplace, hinside⟩ := placed_eq_some_true_iff.1 h
  exact ⟨steps path, [], place, (List.append_nil _).symm, leadsTo_of_resolve hplace, hinside,
    by simp⟩

theorem stops_of_parent? {p : String} (hp : p ≠ "") (hparent : Location.parent? path = some p)
    (hmissing : t.resolve path = .error .notFound) (h : Stops t base (t.start p) (steps p)) :
    Stops t base (t.start path) (steps path) := by
  obtain ⟨habsolute, m, hsteps⟩ := (Location.steps_parent? hparent).resolve_left hp
  have hstart : t.start p = t.start path := by rw [start, start, habsolute]
  obtain ⟨before, after, place, hsplit, hleads, hinside, hnext⟩ := h
  rw [hstart] at hleads
  refine ⟨before, after ++ [m], place, by rw [hsteps, hsplit, List.append_assoc], hleads,
    hinside, fun m' hm' => ?_⟩
  cases after with
  | nil =>
    obtain rfl : m = m' := by simpa using hm'
    have hne : path ≠ "" := by
      rintro rfl
      cases hparent
    obtain ⟨q, hq⟩ := leadsTo_of_notFound hne hmissing
    rw [LeadsTo, hsteps, hsplit, List.append_nil, hleads.append_iff] at hq
    exact ⟨q, hq⟩
  | cons first after => exact hnext m' hm'

/-- A path is judged as inside only where its nearest ancestor that exists is. -/
theorem stops_of_nearest {n : Nat}
    (h : (Location.ancestors path n).findSome? (placed t base) = some true) :
    Stops t base (t.start path) (steps path) := by
  induction n generalizing path with
  | zero => exact stops_of_placed (by simpa [Location.ancestors] using h)
  | succ n ih =>
    rw [Location.ancestors] at h
    cases hparent : Location.parent? path with
    | none =>
      rw [hparent] at h
      exact stops_of_placed (by simpa using h)
    | some p =>
      rw [hparent, List.findSome?_cons] at h
      cases hplaced : placed t base path with
      | some b =>
        rw [hplaced] at h
        exact stops_of_placed (hplaced.trans h)
      | none =>
        rw [hplaced] at h
        have hp : p ≠ "" := by
          rintro rfl
          rw [findSome?_placed_empty] at h
          cases h
        exact stops_of_parent? hp hparent (placed_eq_none_iff.1 hplaced) (ih h)

theorem Stops.after_root {start : FilePlace} {xs ys : List Move}
    (hroot : t.Leads start xs true base) (h : Stops t base start (xs ++ ys)) :
    Stops t base base ys := by
  obtain ⟨before, after, place, hsplit, hleads, hinside, hnext⟩ := h
  have hend : ∀ before', before = xs ++ before' → ys = before' ++ after → Stops t base base ys := by
    rintro before' rfl hys
    exact ⟨before', after, place, hys, hroot.append_iff.1 hleads, hinside, hnext⟩
  obtain ⟨before', hbefore, hys⟩ | ⟨rest, hrest, hafter⟩ := List.append_eq_append_iff.1 hsplit
  · exact hend before' hbefore hys
  · cases rest with
    | nil => exact hend [] (by simpa using hrest.symm) hafter.symm
    | cons m rest =>
      -- a step within the root cannot come to a missing name
      obtain ⟨q, hq⟩ := hnext m (by simp [hafter])
      have hmissing := (hleads.append_iff.2 hq).append_missing rest
      rw [List.append_assoc, List.singleton_append, ← hrest] at hmissing
      cases (hmissing.unique hroot).1

theorem stops_of_inside (hroot : t.resolve root = .ok base)
    (hrelative : Location.isAbsolute target = false) (h : inside t root target = true) :
    Stops t base base (steps target) := by
  have hne := ne_empty_of_resolve hroot
  have hnearest : (Location.ancestors (Location.join root target)
      (Location.join root target).length).findSome? (placed t base) = some true := by
    simp only [inside, hroot] at h
    exact (Option.getD_eq_iff.1 h).resolve_right (by simp)
  have hstops := stops_of_nearest hnearest
  rw [start, Location.isAbsolute_join hne hrelative, Location.steps_join hne hrelative] at hstops
  exact hstops.after_root (leadsTo_of_resolve hroot)

theorem prefix_foldl_apply {ms : List Move} (h : ∀ m ∈ ms, ∃ name, m = .down name) :
    place <+: ms.foldl Move.apply place := by
  induction ms generalizing place with
  | nil => exact List.prefix_refl place
  | cons m ms ih =>
    obtain ⟨⟨name, rfl⟩, hms⟩ := List.forall_mem_cons.1 h
    exact (List.prefix_append place [name]).trans (ih hms)

/-- Every link to nothing that is met on the way to the target leads into the project. -/
def LinksStay (t : FileTree) (base : FilePlace) (target : String) : Prop :=
  ∀ before name rest folder text, steps target = before ++ .down name :: rest →
    t.Leads base before true folder → t.entry? (folder ++ [name]) = some (.link text) →
    (∃ q, t.Leads (linkStart folder text) (steps text) false q) →
    ∃ found q, t.Leads (linkStart folder text) (steps text ++ rest) found q ∧ base <+: q

theorem landing_iff (hroot : t.resolve root = .ok base)
    (hrelative : Location.isAbsolute target = false) (hup : .up ∉ steps target)
    (hinside : inside t root target = true) :
    (∃ found q, t.LeadsTo (Location.join root target) found q ∧ base <+: q) ↔
      LinksStay t base target := by
  simp only [leadsTo_join_iff hroot hrelative]
  constructor
  · rintro ⟨found, q, hleads, hq⟩ before name rest folder text hsteps hfolder hlink -
    rw [hsteps, hfolder.append_iff, leads_link_iff hlink] at hleads
    exact ⟨found, q, hleads, hq⟩
  · intro hstay
    have hdown : ∀ m ∈ steps target, ∃ name, m = .down name := by
      intro m hm
      cases m with
      | here => simp [steps] at hm
      | up => exact absurd hm hup
      | down name => exact ⟨name, rfl⟩
    obtain ⟨before, after, place, hsteps, hleads, hplace, hnext⟩ :=
      stops_of_inside hroot hrelative hinside
    rw [hsteps]
    simp only [hleads.append_iff]
    cases after with
    | nil => exact ⟨true, place, .stop, hplace⟩
    | cons m rest =>
      obtain ⟨⟨name, rfl⟩, hrest⟩ := List.forall_mem_cons.1 fun m' hm' =>
        hdown m' (hsteps ▸ List.mem_append_right before hm')
      obtain ⟨q, hq⟩ := hnext _ rfl
      cases hentry : t.entry? (place ++ [name]) with
      | none =>
        refine ⟨false, _, .missing hentry, ?_⟩
        exact hplace.trans ((List.prefix_append place [name]).trans (prefix_foldl_apply hrest))
      | some e =>
        by_cases hlink : ∃ text, e = .link text
        · obtain ⟨text, rfl⟩ := hlink
          rw [leads_link_iff hentry, List.append_nil] at hq
          simp only [leads_link_iff hentry]
          exact hstay before name rest place text hsteps hleads hentry ⟨q, hq⟩
        · rw [leads_name_iff hentry (not_exists.1 hlink)] at hq
          cases hq

/-- A target that counts as inside leads into the project exactly if the links to nothing on its way
do. With the sandbox on, checks open only such targets of their leaves. -/
theorem leads_inside_iff_linksStay (t : FileTree) {root : String} {base : FilePlace}
    (hroot : t.resolve root = .ok base) :
    (∀ target, Location.isAbsolute target = false → .up ∉ steps target →
      (resolvesInside t root target).value = true →
        ((∃ found q, t.LeadsTo (Location.join root target) found q ∧ base <+: q) ↔
          LinksStay t base target)) ∧
    ∀ (s : Settings) (c : Condition) (k : Check), s.sandbox = true →
      (build s c).value = .ok k → ∀ path, .opened path ∈ (k.run t root).trace →
        ∃ leaf ∈ c.leaves, ∃ target, leaf.target? = some target ∧
          path = Location.join root target ∧ Location.isAbsolute target = false ∧
          .up ∉ steps target ∧ (resolvesInside t root target).value = true := by
  constructor
  · intro target hrelative hup hinside
    rw [resolvesInside_value] at hinside
    exact landing_iff hroot hrelative hup hinside
  · intro s c k hs hk path hpath
    obtain ⟨leaf, hleaf, target, htarget, hjoin, hcontained, hinside⟩ :=
      run_buildAt_opensOnly hs 1 c hk path hpath
    obtain ⟨hrelative, hdown⟩ := Location.steps_of_isContained hcontained
    refine ⟨leaf, hleaf, target, htarget, hjoin, hrelative, fun hup => ?_, ?_⟩
    · obtain ⟨name, hname⟩ := hdown .up hup
      cases hname
    · rw [resolvesInside_value, hinside]

theorem leads_inside_iff_linksStay_of_link_inside :
    let t : FileTree := ⟨[(["p"], .folder), (["p", "l"], .link "m")], []⟩
    t.resolve "p" = .ok ["p"] ∧ (resolvesInside t "p" "l").value = true ∧
      (∃ found q, t.LeadsTo (Location.join "p" "l") found q ∧ ["p"] <+: q) ∧
      ∃ k, (build .usual (.fileNotExists "l")).value = .ok k ∧
        ∃ leaf ∈ (Condition.fileNotExists "l").leaves, ∃ target, leaf.target? = some target ∧
          "p/l" = Location.join "p" target ∧ Location.isAbsolute target = false ∧
          .up ∉ steps target ∧ (resolvesInside t "p" target).value = true := by
  intro t
  have hmoves : moves "p" = [.down "p"] ∧ moves "p/l" = [.down "p", .down "l"] ∧
      moves "m" = [.down "m"] := by decide
  have hrefuses : refuses "p" = none ∧ refuses "p/l" = none := by decide
  have hrelative : Location.isAbsolute "p" = false ∧ Location.isAbsolute "p/l" = false ∧
      Location.isAbsolute "m" = false := by decide
  have hbytes : "p".utf8ByteSize = 1 ∧ "l".utf8ByteSize = 1 ∧ "m".utf8ByteSize = 1 :=
    ⟨rfl, rfl, rfl⟩
  have hjoin : Location.join "p" "l" = "p/l" := by decide
  have hpaths : Location.ancestors "p/l" "p/l".length = ["p/l", "p", ""] := by decide
  have hsteps : steps "l" = [.down "l"] ∧ steps "m" = [.down "m"] := by decide
  obtain ⟨hroot, hmissing⟩ : t.resolve "p" = .ok ["p"] ∧ t.resolve "p/l" = .error .notFound := by
    simp [FileTree.resolve, FileTree.follow, FileTree.start, FileTree.isFolderAt,
      FileTree.entry?, hmoves, hrefuses, hbytes, hrelative, t, List.lookup_cons, maxNameBytes,
      maxLinks]
  have hinside : (resolvesInside t "p" "l").value = true := by
    rw [resolvesInside_value]
    simp [inside, hjoin, hpaths, hroot, placed, hmissing]
  have hstay : LinksStay t ["p"] "l" := by
    intro before name rest folder text htarget hfolder hlink _
    rw [hsteps.1] at htarget
    obtain ⟨rfl, rfl, rfl⟩ : before = [] ∧ name = "l" ∧ rest = [] := by
      cases before with
      | nil => simpa [eq_comm] using htarget
      | cons m before => simp at htarget
    cases hfolder
    obtain rfl : "m" = text := by simpa [t, entry?, List.lookup_cons] using hlink
    refine ⟨false, ["p", "m"], ?_, by decide⟩
    rw [hsteps.2, linkStart, hrelative.2.2]
    exact .missing rfl
  have hbuild : (build .usual (.fileNotExists "l")).value = .ok (.guarded "l" (.presence false)) :=
    rfl
  have hopened : .opened "p/l" ∈ (run t "p" (.guarded "l" (.presence false))).trace := by
    simp [run, hinside, Probe.run, Traced.noteOpened, hjoin]
  obtain ⟨hlanding, hsandbox⟩ := leads_inside_iff_linksStay t hroot
  have hup : .up ∉ steps "l" := by simp [hsteps.1]
  exact ⟨hroot, hinside, (hlanding "l" (by decide) hup hinside).2 hstay, _, hbuild,
    hsandbox .usual _ _ rfl hbuild "p/l" hopened⟩

/-- A link in the project to nothing outside of it: the target counts as inside and leads out, and
whether it is taken for absent hangs on a file outside. -/
theorem containment_of_link_to_nothing :
    let t : FileTree := ⟨[(["p"], .folder), (["p", "l"], .link "../n")], []⟩
    let t' : FileTree := { t with entries := t.entries ++ [(["n"], .folder)] }
    (t.resolve "p" = .ok ["p"] ∧ Location.isAbsolute "l" = false ∧ .up ∉ steps "l" ∧
      (resolvesInside t "p" "l").value = true ∧
      t.LeadsTo (Location.join "p" "l") false ["n"] ∧
      ∀ found q, t.LeadsTo (Location.join "p" "l") found q → ¬["p"] <+: q) ∧
    ∃ k, (build .usual (.fileNotExists "l")).value = .ok k ∧
      (k.run t "p").value = true ∧ (k.run t' "p").value = false := by
  intro t t'
  have hmoves : moves "p" = [.down "p"] ∧ moves "p/l" = [.down "p", .down "l"] ∧
      moves "../n" = [.up, .down "n"] := by decide
  have hrefuses : refuses "p" = none ∧ refuses "p/l" = none := by decide
  have hrelative : Location.isAbsolute "p" = false ∧ Location.isAbsolute "p/l" = false ∧
      Location.isAbsolute "../n" = false := by decide
  have hbytes : "p".utf8ByteSize = 1 ∧ "l".utf8ByteSize = 1 ∧ "n".utf8ByteSize = 1 :=
    ⟨rfl, rfl, rfl⟩
  have hjoin : Location.join "p" "l" = "p/l" := by decide
  have hpaths : Location.ancestors "p/l" "p/l".length = ["p/l", "p", ""] := by decide
  obtain ⟨hroot, hmissing⟩ : t.resolve "p" = .ok ["p"] ∧ t.resolve "p/l" = .error .notFound := by
    simp [FileTree.resolve, FileTree.follow, FileTree.start, FileTree.isFolderAt,
      FileTree.entry?, hmoves, hrefuses, hbytes, hrelative, t, List.lookup_cons, maxNameBytes,
      maxLinks]
  obtain ⟨hroot', hfound⟩ : t'.resolve "p" = .ok ["p"] ∧ t'.resolve "p/l" = .ok ["n"] := by
    simp [FileTree.resolve, FileTree.follow, FileTree.start, FileTree.isFolderAt,
      FileTree.entry?, hmoves, hrefuses, hbytes, hrelative, t, t', List.lookup_cons, maxNameBytes,
      maxLinks]
  have hinside : inside t "p" "l" = true := by
    simp [inside, hjoin, hpaths, hroot, placed, hmissing]
  have houtside : inside t' "p" "l" = false := by
    refine inside_of_placed hroot' ?_
    rw [hjoin, placed, hfound]
    decide
  have hleads : t.LeadsTo "p/l" false ["n"] := by
    have hsteps : steps "p/l" = [.down "p", .down "l"] ∧ steps "../n" = [.up, .down "n"] := by
      decide
    have hstart : t.start "p/l" = [] := by decide
    rw [LeadsTo, hsteps.1, hstart]
    have hfolder : t.entry? ([] ++ ["p"]) = some .folder := rfl
    have hlink : t.entry? (["p"] ++ ["l"]) = some (.link "../n") := rfl
    refine .name hfolder (by simp) (.link hlink ?_)
    rw [hsteps.2, linkStart, hrelative.2.2]
    exact .up (.missing rfl)
  have hbuild : (build .usual (.fileNotExists "l")).value = .ok (.guarded "l" (.presence false)) :=
    rfl
  have hup : .up ∉ steps "l" := by decide
  rw [hjoin]
  refine ⟨⟨hroot, by decide, hup, resolvesInside_value.trans hinside, hleads,
    fun found q hq => ?_⟩, _, hbuild, ?_, ?_⟩
  · obtain ⟨-, rfl⟩ := hq.unique hleads
    decide
  · have hcontained : Location.isContained "l" = true := by decide
    rw [run_buildAt 1 _ hbuild, truth, leafTruth, hinside, hcontained, verdict, exists?, stat,
      hjoin, hmissing]
    rfl
  · rw [run_buildAt 1 _ hbuild, truth, leafTruth, houtside]
    simp [Settings.usual]

end StorePolicy.Check

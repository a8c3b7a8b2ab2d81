import StorePolicy.Proofs.Files.Ancestors
import StorePolicy.Proofs.Files.Copies

/-!
# Writing where a path leads

A file that is put where a file is, or nothing, changes no folder and no link. So every path that is
written is written at the same place afterwards, and to make the folders above a file that is
there changes nothing.
-/
namespace StorePolicy.FileTree

open Files

variable {t : FileTree} {place q r : FilePlace} {path p : String} {content : ByteArray}
  {links : Nat} {ms : List Move}

structure TakesFile (t : FileTree) (place : FilePlace) : Prop where
  folder : t.entry? place ≠ some .folder
  link : ∀ text, t.entry? place ≠ some (.link text)

theorem TakesFile.ne_top (h : t.TakesFile place) : place ≠ [] := by
  rintro rfl
  exact h.folder rfl

theorem takesFile_of_file (h : t.entry? place = some (.file content)) : t.TakesFile place where
  folder := by simp [h]
  link := by simp [h]

theorem isFolderAt_put (h : t.TakesFile place) (q : FilePlace) :
    (t.put place (.file content)).isFolderAt q = t.isFolderAt q := by
  rw [isFolderAt, isFolderAt, entry_put t h.ne_top]
  by_cases hq : q = place
  · rw [if_pos hq, hq]
    cases hentry : t.entry? place with
    | none => rfl
    | some e =>
      cases e with
      | folder => exact absurd hentry h.folder
      | file content => rfl
      | link text => rfl
  · rw [if_neg hq]

theorem start_put (t : FileTree) (place : FilePlace) (e : FileEntry) (path : String) :
    (t.put place e).start path = t.start path := by
  have hdir : (t.put place e).workDir = t.workDir := by
    unfold put
    split <;> rfl
  rw [start, start, hdir]

theorem follow_below_file {links : Nat} (hq : t.entry? q = some (.file content)) (hms : ms ≠ []) :
    t.follow true links q ms = .error .notFolder := by
  cases ms with
  | nil => exact absurd rfl hms
  | cons m rest =>
    rw [follow.eq_def]
    simp [isFolderAt, hq]

/-- Paths are written where they were written before a file was put. -/
theorem follow_put (h : t.TakesFile place) :
    (t.put place (.file content)).follow true links q ms = .ok r ↔ t.follow true links q ms = .ok r := by
  have hentry := fun next => entry_put (e := .file content) t h.ne_top next
  fun_induction follow t true links q ms with
  | case1 => rw [follow]
  | case2 links q move rest hfolder =>
    rw [follow.eq_def]
    simp only [isFolderAt_put h, hfolder, if_true]
  | case3 links q rest hfolder ih =>
    rw [follow]
    simpa [isFolderAt_put h, hfolder] using ih
  | case4 links q rest hfolder ih =>
    rw [follow]
    simpa [isFolderAt_put h, hfolder] using ih
  | case5 links q rest hfolder name hlength =>
    rw [follow]
    simp [isFolderAt_put h, hfolder, hlength]
  | case6 links q rest hfolder name hlength next hnone hlast =>
    obtain rfl : rest = [] := by simpa using hlast
    rw [follow]
    by_cases hnext : next = place
    · simp [isFolderAt_put h, hfolder, hlength, hentry, next, hnext, follow]
    · simp [isFolderAt_put h, hfolder, hlength, hentry, next, hnext, hnone]
  | case7 links q rest hfolder name hlength next hnone hlast =>
    have hrest : rest ≠ [] := by simpa using hlast
    rw [follow]
    by_cases hnext : next = place
    · have hfile : FileTree.entry? (t.put place (.file content)) place = some (.file content) := by
        rw [hentry, if_pos rfl]
      simp [isFolderAt_put h, hfolder, hlength, next, hnext, hfile, follow_below_file hfile hrest]
    · simp [isFolderAt_put h, hfolder, hlength, hentry, next, hnext, hnone, hrest]
  | case8 q rest hfolder name hlength next text hlink =>
    have hnext : next ≠ place := fun heq => h.link text (heq ▸ hlink)
    rw [follow]
    simp [isFolderAt_put h, hfolder, hlength, hentry, next, hnext, hlink]
  | case9 q rest hfolder name hlength next text hlink links ih =>
    have hnext : next ≠ place := fun heq => h.link text (heq ▸ hlink)
    rw [follow]
    simpa [isFolderAt_put h, hfolder, hlength, hentry, next, hnext, hlink] using ih
  | case10 links q rest hfolder name hlength next e hnot hsome ih =>
    rw [follow]
    by_cases hnext : next = place
    · simpa [isFolderAt_put h, hfolder, hlength, hentry, next, hnext] using ih
    · simpa [isFolderAt_put h, hfolder, hlength, hentry, next, hnext, hsome] using ih

theorem resolveNew_put (h : t.TakesFile place) :
    (t.put place (.file content)).resolveNew path = .ok q ↔ t.resolveNew path = .ok q := by
  unfold resolveNew
  rw [start_put]
  split
  · rfl
  · exact follow_put h

def isName (path : String) : Bool :=
  moves path = [.down path] && (refuses path).isNone && !Location.isAbsolute path &&
    path.utf8ByteSize ≤ maxNameBytes

theorem resolveNew_of_isName (hdir : t.workDir = []) (hname : isName path = true)
    (hlink : ∀ text, t.entry? [path] ≠ some (.link text)) : t.resolveNew path = .ok [path] := by
  obtain ⟨⟨⟨hmoves, hrefuses⟩, hrelative⟩, hlength⟩ :
      ((moves path = [.down path] ∧ refuses path = none) ∧ Location.isAbsolute path = false) ∧
        path.utf8ByteSize ≤ maxNameBytes := by
    simpa [isName] using hname
  have htop : t.isFolderAt [] = true := rfl
  have hstart : t.start path = [] := by
    rw [start, hrelative, hdir]
    rfl
  rw [resolveNew, hrefuses, hmoves, hstart, follow]
  simp only [htop, Nat.not_lt.2 hlength, Bool.not_true, Bool.false_eq_true, if_false, List.nil_append]
  cases hentry : t.entry? [path] with
  | none => rfl
  | some e =>
    cases e with
    | link text => exact absurd hentry (hlink text)
    | file content => rw [follow]
    | folder => rw [follow]

theorem readBytes_of_isName (hdir : t.workDir = []) (hname : isName path = true)
    (hfile : t.entry? [path] = some (.file content)) : t.readBytes path = .ok content := by
  have hnew : t.resolveNew path = .ok [path] :=
    resolveNew_of_isName hdir hname (by simp [hfile])
  refine readBytes_eq_ok_iff.2 ⟨[path], ?_, hfile⟩
  exact (resolveNew_eq_ok_iff (by rw [hfile]; rfl)).1 hnew

theorem fromUTF8?_toUTF8 (text : String) : String.fromUTF8? text.toUTF8 = some text := by
  unfold String.fromUTF8?
  split
  · rfl
  · next h => exact absurd text.isValidUTF8 h

theorem readText_of_isName {text : String} (hdir : t.workDir = []) (hname : isName path = true)
    (hfile : t.entry? [path] = some (.file text.toUTF8)) : t.readText path = .ok text :=
  readText_eq_ok_iff.2 ⟨_, readBytes_of_isName hdir hname hfile, fromUTF8?_toUTF8 text⟩

theorem readBytes_put_self (h : t.TakesFile place) (hpath : t.resolveNew path = .ok place) :
    (t.put place (.file content)).readBytes path = .ok content := by
  have hentry : FileTree.entry? (t.put place (.file content)) place = some (.file content) := by
    rw [entry_put t h.ne_top, if_pos rfl]
  refine readBytes_eq_ok_iff.2 ⟨place, ?_, hentry⟩
  exact (resolveNew_eq_ok_iff (by rw [hentry]; rfl)).1 ((resolveNew_put h).2 hpath)

theorem readBytes_put_other {old : ByteArray} (h : t.TakesFile place)
    (hread : t.readBytes path = .ok old) (hpath : t.resolveNew path ≠ .ok place) :
    (t.put place (.file content)).readBytes path = .ok old := by
  obtain ⟨q, hresolve, hentry⟩ := readBytes_eq_ok_iff.1 hread
  have hnew := (resolveNew_eq_ok_iff (by rw [hentry]; rfl)).2 hresolve
  have hq : q ≠ place := fun heq => hpath (heq ▸ hnew)
  have hsame : FileTree.entry? (t.put place (.file content)) q = some (.file old) := by
    rw [entry_put t h.ne_top, if_neg hq, hentry]
  refine readBytes_eq_ok_iff.2 ⟨q, ?_, hsame⟩
  exact (resolveNew_eq_ok_iff (by rw [hsame]; rfl)).1 ((resolveNew_put h).2 hnew)

def HasFolder (t : FileTree) (p : String) : Prop :=
  p = "" ∨ ∃ r, t.resolve p = .ok r ∧ t.isFolderAt r = true

theorem hasFolder_parent? (h : t.resolve path = .ok q) (hparent : Location.parent? path = some p) :
    t.HasFolder p :=
  or_iff_not_imp_left.2 fun hp => resolve_parent?_of_ok hp hparent h

theorem HasFolder.ancestors (h : t.HasFolder p) (n : Nat) :
    ∀ a ∈ Location.ancestors p n, t.HasFolder a := by
  induction n generalizing p with
  | zero => simpa [Location.ancestors] using h
  | succ n ih =>
    rw [Location.ancestors]
    cases hparent : Location.parent? p with
    | none => simpa using h
    | some p' =>
      have hp' : t.HasFolder p' := by
        rcases h with rfl | ⟨r, hresolve, -⟩
        · cases hparent
        · exact hasFolder_parent? hresolve hparent
      exact List.forall_mem_cons.2 ⟨h, ih hp'⟩

theorem HasFolder.makeFolder (h : t.HasFolder p) : t.makeFolder p = .ok t := by
  rw [FileTree.makeFolder, if_pos]
  rcases h with rfl | ⟨r, hresolve, hfolder⟩
  · exact Bool.or_true _
  · have hentry : t.entry? r = some .folder := by
      unfold isFolderAt at hfolder
      split at hfolder
      · assumption
      · cases hfolder
    simp [isFolder, stat, hresolve, hentry, Bind.bind, Except.bind, pure, Except.pure]

theorem foldlM_makeFolder {paths : List String} (h : ∀ p ∈ paths, t.HasFolder p) :
    paths.foldlM FileTree.makeFolder t = .ok t := by
  induction paths with
  | nil => rfl
  | cons p rest ih =>
    obtain ⟨hp, hrest⟩ := List.forall_mem_cons.1 h
    rw [List.foldlM_cons, hp.makeFolder]
    exact ih hrest

theorem makeFolders_parent? (h : t.resolve path = .ok q) (hparent : Location.parent? path = some p) :
    t.makeFolders p = .ok t :=
  foldlM_makeFolder fun a ha =>
    (hasFolder_parent? h hparent).ancestors p.length a (List.mem_reverse.1 ha)

end StorePolicy.FileTree

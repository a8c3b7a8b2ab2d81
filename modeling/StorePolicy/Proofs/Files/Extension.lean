import StorePolicy.Proofs.Files.Copies

/-!
# Trees with more files

One tree extends another if it has every entry of it as it is there, and perhaps more. What a path
leads to stays there: a path is followed from entry to entry, none of which is another one in the
larger tree. Only paths that lead to nothing may come to lead somewhere.
-/
namespace StorePolicy.FileTree

open Files

/-- Every entry of the first tree is in the second as it is, and relative paths start alike. -/
structure ExtendedBy (t t' : FileTree) : Prop where
  workDir : t'.workDir = t.workDir
  entry : ∀ place e, t.entry? place = some e → t'.entry? place = some e

variable {t t' : FileTree} {place q : FilePlace} {path : String} {links : Nat} {ms : List Move}

theorem extendedBy_append (t : FileTree) (more : List (FilePlace × FileEntry)) :
    t.ExtendedBy { t with entries := t.entries ++ more } where
  workDir := rfl
  entry := by
    intro place e h
    unfold FileTree.entry? at h ⊢
    split at h
    · next htop => rwa [if_pos htop]
    · next htop => rw [if_neg htop, List.lookup_append, h, Option.some_or]

theorem ExtendedBy.isFolderAt (h : t.ExtendedBy t') (hfolder : t.isFolderAt place = true) :
    t'.isFolderAt place = true := by
  unfold FileTree.isFolderAt at hfolder ⊢
  split at hfolder
  · next hentry => rw [h.entry place _ hentry]
  · cases hfolder

-- by the recursion of the walk: a walk that ends at a place has met entries only
theorem ExtendedBy.follow (h : t.ExtendedBy t')
    (hwalk : t.follow false links place ms = .ok q) : t'.follow false links place ms = .ok q := by
  fun_induction FileTree.follow t false links place ms with
  | case1 links place =>
    rw [FileTree.follow]
    exact hwalk
  | case2 | case5 | case7 | case8 => cases hwalk
  | case3 links place rest hfolder ih =>
    rw [FileTree.follow]
    simpa [h.isFolderAt (by simpa using hfolder)] using ih hwalk
  | case4 links place rest hfolder ih =>
    rw [FileTree.follow]
    simpa [h.isFolderAt (by simpa using hfolder)] using ih hwalk
  | case6 links place rest hfolder name hlength next hnone hlast => cases hlast
  | case9 place rest hfolder name hlength next text hlink links ih =>
    have hkept : t'.entry? (place ++ [name]) = some (.link text) := h.entry _ _ hlink
    rw [FileTree.follow]
    simpa [h.isFolderAt (by simpa using hfolder), hlength, hkept] using ih hwalk
  | case10 links place rest hfolder name hlength next e hnot hsome ih =>
    have hkept : t'.entry? (place ++ [name]) = some e := h.entry _ _ hsome
    rw [FileTree.follow]
    simpa [h.isFolderAt (by simpa using hfolder), hlength, hkept] using ih hwalk

theorem ExtendedBy.resolve (h : t.ExtendedBy t') (hpath : t.resolve path = .ok q) :
    t'.resolve path = .ok q := by
  unfold FileTree.resolve at hpath ⊢
  have hstart : t'.start path = t.start path := by rw [start, start, h.workDir]
  split at hpath
  · cases hpath
  · rw [hstart]
    exact h.follow hpath

theorem ExtendedBy.stat (h : t.ExtendedBy t') (hthere : t.exists? path = true) :
    t'.stat path = t.stat path := by
  obtain ⟨e, hstat⟩ := exists_eq_true_iff.1 hthere
  obtain ⟨place, hpath, hentry⟩ := stat_eq_ok_iff.1 hstat
  rw [hstat]
  exact stat_eq_ok_iff.2 ⟨place, h.resolve hpath, h.entry place e hentry⟩

end StorePolicy.FileTree

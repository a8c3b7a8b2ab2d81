import StorePolicy.Files.Edit
import StorePolicy.Proofs.Attempt
import StorePolicy.Proofs.Files.Landing

/-!
# Copies

A file that is written is the only entry that changes. Where it is written is where it is read from
afterwards, so a copy changes nothing exactly if its path leads to the same bytes already.
-/
namespace StorePolicy.FileTree

open Files

variable {t t' : FileTree} {place q : FilePlace} {e : FileEntry} {path : String}
  {content : ByteArray}

theorem lookup_map_replace (entries : List (FilePlace × FileEntry)) :
    (entries.map fun p => if p.1 = place then (place, e) else p).lookup q =
      if q = place then (entries.lookup q).map fun _ => e else entries.lookup q := by
  induction entries with
  | nil => simp
  | cons p rest ih =>
    obtain ⟨k, old⟩ := p
    rw [List.map_cons, List.lookup_cons, ih]
    by_cases hk : k = place
    · by_cases hq : q = place
      · simp [hk, hq]
      · simp [hk, hq, List.lookup_cons, beq_eq_false_iff_ne.2 hq]
    · by_cases hq : q = k
      · simp [hq, hk]
      · simp [hk, List.lookup_cons, beq_eq_false_iff_ne.2 hq]

theorem entry_put (t : FileTree) (hplace : place ≠ []) (q : FilePlace) :
    FileTree.entry? (t.put place e) q = if q = place then some e else t.entry? q := by
  unfold FileTree.entry?
  by_cases hq : q = []
  · rw [if_pos hq, if_neg (hq ▸ hplace.symm), if_pos hq]
  rw [if_neg hq, if_neg hq, put]
  split
  · next h =>
    rw [lookup_map_replace]
    split
    · next heq =>
      obtain ⟨old, hold⟩ := Option.isSome_iff_exists.1 h
      rw [heq, hold, Option.map_some]
    · rfl
  · next h =>
    rw [Option.not_isSome_iff_eq_none] at h
    rw [List.lookup_append]
    by_cases heq : q = place
    · simp [heq, h]
    · simp [heq, List.lookup_cons, beq_eq_false_iff_ne.2 heq]

theorem writeBytes_eq_ok_iff :
    t.writeBytes path content = .ok t' ↔ ∃ place, t.resolveNew path = .ok place ∧
      t.entry? place ≠ some .folder ∧ t' = t.put place (.file content) := by
  rw [writeBytes, bind_eq_ok_iff]
  refine exists_congr fun place => and_congr_right fun _ => ?_
  split
  · next h => simp [h, throw, throwThe, MonadExceptOf.throw]
  · next h =>
    have hne : t.entry? place ≠ some .folder := h
    simp [hne, pure, Except.pure, eq_comm]

theorem copy_eq_ok_iff {source target : String} :
    t.copy source target = .ok t' ↔ ∃ content, t.readBytes source = .ok content ∧
      t.writeBytes target content = .ok t' :=
  bind_eq_ok_iff

theorem stat_eq_ok_iff :
    t.stat path = .ok e ↔ ∃ place, t.resolve path = .ok place ∧ t.entry? place = some e := by
  rw [stat, bind_eq_ok_iff]
  refine exists_congr fun place => and_congr_right fun _ => ?_
  cases t.entry? place <;> simp [pure, Except.pure, throw, throwThe, MonadExceptOf.throw]

theorem exists_eq_true_iff : t.exists? path = true ↔ ∃ e, t.stat path = .ok e := by
  rw [exists?]
  cases t.stat path <;> simp [Except.isOk, Except.toBool]

theorem readBytes_eq_ok_iff :
    t.readBytes path = .ok content ↔
      ∃ place, t.resolve path = .ok place ∧ t.entry? place = some (.file content) := by
  rw [← stat_eq_ok_iff, readBytes, bind_eq_ok_iff]
  constructor
  · intro h
    obtain ⟨e, hstat, h⟩ := h
    cases e with
    | file content' =>
      obtain rfl : content' = content := by simpa [pure, Except.pure] using h
      exact hstat
    | _ => simp [throw, throwThe, MonadExceptOf.throw] at h
  · exact fun hstat => ⟨.file content, hstat, rfl⟩

theorem readText_eq_ok_iff {text : String} :
    t.readText path = .ok text ↔
      ∃ content, t.readBytes path = .ok content ∧ String.fromUTF8? content = some text := by
  rw [readText, bind_eq_ok_iff]
  refine exists_congr fun content => and_congr_right fun _ => ?_
  cases String.fromUTF8? content <;> simp [pure, Except.pure, throw, throwThe, MonadExceptOf.throw]

theorem exists_of_readBytes (h : t.readBytes path = .ok content) : t.exists? path = true :=
  exists_eq_true_iff.2 ⟨_, stat_eq_ok_iff.2 (readBytes_eq_ok_iff.1 h)⟩

/-- No file, folder or link is other than before, and there is no new one. -/
def Unchanged (t t' : FileTree) : Prop := ∀ place, t'.entry? place = t.entry? place

theorem unchanged_refl (t : FileTree) : t.Unchanged t := fun _ => rfl

/-- A copy changes nothing exactly if its path leads to the same bytes already. -/
theorem copy_unchanged_iff {source target : String} (h : t.copy source target = .ok t') :
    t.Unchanged t' ↔ t.readBytes target = t.readBytes source := by
  obtain ⟨content, hsource, hwrite⟩ := copy_eq_ok_iff.1 h
  obtain ⟨place, hplace, hfolder, rfl⟩ := writeBytes_eq_ok_iff.1 hwrite
  have htop : place ≠ [] := fun htop => hfolder (by rw [htop]; rfl)
  rw [hsource]
  constructor
  · intro hsame
    have hentry : t.entry? place = some (.file content) := by
      rw [← hsame place, entry_put t htop, if_pos rfl]
    refine readBytes_eq_ok_iff.2 ⟨place, ?_, hentry⟩
    exact (resolveNew_eq_ok_iff (by rw [hentry]; rfl)).1 hplace
  · intro htarget q
    obtain ⟨place', hplace', hentry⟩ := readBytes_eq_ok_iff.1 htarget
    have hnew := (resolveNew_eq_ok_iff (by rw [hentry]; rfl)).2 hplace'
    obtain rfl : place' = place := Except.ok.inj (hnew.symm.trans hplace)
    rw [entry_put t htop]
    split
    · next hq => rw [hq, hentry]
    · rfl

end StorePolicy.FileTree

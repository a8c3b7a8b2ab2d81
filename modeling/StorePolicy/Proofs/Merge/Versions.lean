import StorePolicy.Proofs.Files.Siblings
import StorePolicy.Proofs.Files.Writing
import StorePolicy.Proofs.Merge.Files

/-!
# Versions of a rule-set file

A run of merges into one file keeps a copy each time before it writes. A copy has its name from the
clock, and one that comes at the same time as another takes its place. So what a run leaves at a
name is the last copy of that time, and a version is lost if no time has it as its last copy.
-/
namespace StorePolicy.RuleSetFile

open Merge

variable {t t' : FileTree} {f : RuleSetFile} {clock : Clock} {batch : List Value}
  {stamps : List String} {content : ByteArray} {place : FilePlace}

/-- The document and the report of a merge that comes to write: candidates are accepted. -/
def proposal? (f : RuleSetFile) (today : String) (batch : List Value) :
    Except Merge.Fault Value → Option (Value × MergeReport)
  | .error _ => none
  | .ok document =>
    match (candidates f.acceptance today document batch).value with
    | .error _ => none
    | .ok (document, r) => if r.accepted = 0 then none else some (document, r)

def copied? (t : FileTree) (f : RuleSetFile) (clock : Clock) (batch : List Value) :
    Option (String × ByteArray) :=
  match proposal? f clock.today batch (read t f).value,
    t.copy f.path (f.backupPath clock.stamp) with
  | some _, .ok _ => (t.readBytes f.path).toOption.map fun content => (clock.stamp, content)
  | _, _ => none

def overwritten? (t : FileTree) (f : RuleSetFile) (clock : Clock) (batch : List Value) :
    Option ByteArray :=
  match (merge t f clock batch).value.2 with
  | .error _ => none
  | .ok r => if r.accepted = 0 then none else (t.readBytes f.path).toOption

def after (f : RuleSetFile) (t : FileTree) (calls : List (Clock × List Value)) : FileTree :=
  calls.foldl (fun t call => (merge t f call.1 call.2).value.1) t

def history {α : Type} (event? : FileTree → RuleSetFile → Clock → List Value → Option α)
    (f : RuleSetFile) : FileTree → List (Clock × List Value) → List α
  | _, [] => []
  | t, call :: rest =>
    (event? t f call.1 call.2).toList ++
      history event? f (merge t f call.1 call.2).value.1 rest

/-- There is a rule-set, and copies of different times go to different places, none of which is a link
or that of the rule-set. -/
structure CopiesApart (t : FileTree) (f : RuleSetFile) (stamps : List String) : Prop where
  rules : ∃ content, t.readBytes f.path = .ok content
  copies : ∀ s ∈ stamps, ∀ place, t.resolveNew (f.backupPath s) = .ok place →
    t.resolveNew f.path ≠ .ok place ∧ ∀ text, t.entry? place ≠ some (.link text)
  apart : ∀ s ∈ stamps, ∀ s' ∈ stamps, ∀ place, t.resolveNew (f.backupPath s) = .ok place →
    t.resolveNew (f.backupPath s') = .ok place → s = s'

theorem merge_of_no_proposal (h : proposal? f clock.today batch (read t f).value = none) :
    (merge t f clock batch).value.1 = t ∧ Fruitless (merge t f clock batch).value.2 := by
  rw [merge_value]
  cases hread : (read t f).value with
  | error e => exact ⟨rfl, nofun⟩
  | ok document =>
    cases hmerged : (candidates f.acceptance clock.today document batch).value with
    | error e => exact ⟨by simp only [hmerged], by simp [hmerged, Fruitless]⟩
    | ok x =>
      by_cases haccepted : x.2.accepted = 0
      · simp [hmerged, Fruitless, haccepted]
      · simp [proposal?, hread, hmerged, haccepted] at h

theorem merge_of_proposal (t : FileTree) (clock : Clock) {new : Value} {r : MergeReport}
    (h : proposal? f clock.today batch (read t f).value = some (new, r)) :
    r.accepted ≠ 0 ∧ (merge t f clock batch).value = (save t f clock.stamp new r).value := by
  rw [merge_value]
  cases hread : (read t f).value with
  | error e => simp [proposal?, hread] at h
  | ok document =>
    cases hmerged : (candidates f.acceptance clock.today document batch).value with
    | error e => simp [proposal?, hread, hmerged] at h
    | ok x =>
      obtain ⟨haccepted, hx⟩ : x.2.accepted ≠ 0 ∧ x = (new, r) := by
        simpa [proposal?, hread, hmerged, Prod.ext_iff] using h
      subst hx
      exact ⟨haccepted, by simp only [hmerged, haccepted, if_false]⟩

theorem overwritten?_of_fruitless (h : Fruitless (merge t f clock batch).value.2) :
    overwritten? t f clock batch = none := by
  unfold overwritten?
  cases houtcome : (merge t f clock batch).value.2 with
  | error e => rfl
  | ok r => exact if_pos (h r houtcome)

/-- What one merge into a file that is there does: nothing, or it makes a copy and may then write. -/
theorem merge_cases (clock : Clock) (batch : List Value) (hbackup : f.backup = true)
    (hrules : t.readBytes f.path = .ok content) :
    (copied? t f clock batch = none ∧ overwritten? t f clock batch = none ∧
        (merge t f clock batch).value.1 = t) ∨
      ∃ t', t.copy f.path (f.backupPath clock.stamp) = .ok t' ∧
        copied? t f clock batch = some (clock.stamp, content) ∧
        ((overwritten? t f clock batch = none ∧ (merge t f clock batch).value.1 = t') ∨
          (overwritten? t f clock batch = some content ∧
            ∃ text, f.write t' text = .ok (merge t f clock batch).value.1)) := by
  have hkeeps : (f.backup && t.exists? f.path) = true := by
    rw [hbackup, FileTree.exists_of_readBytes hrules]
    rfl
  cases hproposal : proposal? f clock.today batch (read t f).value with
  | none =>
    obtain ⟨htree, hfruitless⟩ := merge_of_no_proposal hproposal
    exact .inl ⟨by simp [copied?, hproposal], overwritten?_of_fruitless hfruitless, htree⟩
  | some x =>
    obtain ⟨new, r⟩ := x
    obtain ⟨haccepted, hmerge⟩ := merge_of_proposal t clock hproposal
    unfold copied? overwritten?
    rw [hmerge, save_value, keepCopy_value, if_pos hkeeps, hproposal, hrules]
    cases t.copy f.path (f.backupPath clock.stamp) with
    | error e => exact .inl ⟨rfl, rfl, rfl⟩
    | ok t' =>
      refine .inr ⟨t', rfl, rfl, ?_⟩
      simp only
      cases f.render new with
      | error e => exact .inl ⟨rfl, rfl⟩
      | ok text =>
        simp only
        cases hwrite : f.write t' text with
        | error e => exact .inl ⟨rfl, rfl⟩
        | ok t'' => exact .inr ⟨if_neg haccepted, text, hwrite⟩

theorem CopiesApart.put (h : CopiesApart t f stamps) (hplace : t.TakesFile place) :
    CopiesApart (t.put place (.file content)) f stamps where
  rules := by
    obtain ⟨old, hold⟩ := h.rules
    by_cases hpath : t.resolveNew f.path = .ok place
    · exact ⟨_, FileTree.readBytes_put_self hplace hpath⟩
    · exact ⟨_, FileTree.readBytes_put_other hplace hold hpath⟩
  copies := by
    intro s hs q hq
    obtain ⟨hrules, hlink⟩ := h.copies s hs q ((FileTree.resolveNew_put hplace).1 hq)
    refine ⟨fun hmain => hrules ((FileTree.resolveNew_put hplace).1 hmain), fun text => ?_⟩
    rw [FileTree.entry_put t hplace.ne_top]
    split
    · simp
    · exact hlink text
  apart := fun s hs s' hs' q hq hq' => h.apart s hs s' hs' q
    ((FileTree.resolveNew_put hplace).1 hq) ((FileTree.resolveNew_put hplace).1 hq')

theorem copiesApart_of_noLinks {name : String} (hlinks : t.NoLinks)
    (hrules : t.readBytes f.path = .ok content)
    (hname : Files.Location.fileName? f.path = some name)
    (hstamps : ∀ s ∈ stamps, '/' ∉ s.toList) : CopiesApart t f stamps := by
  obtain ⟨hslash, before, hlast⟩ := Files.Location.steps_of_fileName? hname
  have hcopy : ∀ s ∈ stamps, ∀ place, t.resolveNew (f.backupPath s) = .ok place →
      place = before.foldl Files.Move.apply (t.start f.path) ++ [name ++ ".bak." ++ s] := by
    intro s hs place hplace
    have hplain : Files.IsPlainName (name ++ ".bak." ++ s) := by
      have hlength : ".bak.".length = 5 := rfl
      refine ⟨by simp [hslash, hstamps s hs], ?_⟩
      rw [String.length_append, String.length_append]
      omega
    obtain ⟨hsteps, habsolute⟩ := Files.Location.steps_withFileName hname hlast hplain
    have hpath : f.backupPath s = Files.Location.withFileName f.path (name ++ ".bak." ++ s) := by
      rw [backupPath, hname]
      rfl
    have hstart : t.start (f.backupPath s) = t.start f.path := by
      rw [FileTree.start, FileTree.start, hpath, habsolute]
    rw [FileTree.eq_foldl_of_resolveNew hlinks hplace, hstart, hpath, hsteps, List.foldl_append]
    rfl
  refine ⟨⟨content, hrules⟩, fun s hs place hplace => ⟨fun hmain => ?_, hlinks place⟩,
    fun s hs s' hs' place hplace hplace' => ?_⟩
  · have hfile := FileTree.eq_foldl_of_resolveNew hlinks hmain
    rw [hcopy s hs place hplace, hlast, List.foldl_append] at hfile
    have hnames : name ++ ".bak." ++ s = name := by simpa [Files.Move.apply] using hfile
    have hlength : ".bak.".length = 5 := rfl
    have hsame := congrArg String.length hnames
    rw [String.length_append, String.length_append] at hsame
    omega
  · have hsame := (hcopy s hs place hplace).symm.trans (hcopy s' hs' place hplace')
    have hnames : name ++ ".bak." ++ s = name ++ ".bak." ++ s' := by simpa using hsame
    exact (String.append_right_inj _).1 hnames

theorem mem_of_lookup_reverse {entries : List (String × ByteArray)} {s : String}
    (h : entries.reverse.lookup s = some content) : (s, content) ∈ entries := by
  obtain ⟨before, rest, hentries, -⟩ := List.lookup_eq_some_iff.1 h
  exact List.mem_reverse.1 (by simp [hentries])

theorem lookup_reverse_of_nodup {entries : List (String × ByteArray)}
    (h : (entries.map Prod.fst).Nodup) {e : String × ByteArray} (he : e ∈ entries) :
    entries.reverse.lookup e.1 = some e.2 := by
  obtain ⟨before, rest, rfl⟩ := List.append_of_mem he
  rw [List.map_append, List.map_cons] at h
  have hrest : e.1 ∉ rest.map Prod.fst := (List.nodup_cons.1 (List.nodup_append.1 h).2.1).1
  refine List.lookup_eq_some_iff.2 ⟨rest.reverse, before.reverse, by simp, fun p hp => ?_⟩
  rw [bne_iff_ne]
  intro heq
  exact hrest (heq ▸ List.mem_map_of_mem (List.mem_reverse.1 hp))

theorem exists_lookup_reverse {entries : List (String × ByteArray)} {s : String}
    (h : s ∈ entries.map Prod.fst) : ∃ content, entries.reverse.lookup s = some content := by
  cases hlast : entries.reverse.lookup s with
  | some content => exact ⟨content, rfl⟩
  | none =>
    obtain ⟨e, he, rfl⟩ := List.mem_map.1 h
    have hne := List.lookup_eq_none_iff.1 hlast e (List.mem_reverse.2 he)
    exact absurd rfl (bne_iff_ne.1 hne)

variable {made : List (String × ByteArray)}

/-- At the name of each time is the last copy that was made at that time. -/
structure Holds (t : FileTree) (f : RuleSetFile) (stamps : List String)
    (made : List (String × ByteArray)) : Prop where
  copiesApart : CopiesApart t f stamps
  stamps : ∀ c ∈ made, c.1 ∈ stamps
  last : ∀ s content, made.reverse.lookup s = some content →
    t.readBytes (f.backupPath s) = .ok content

theorem Holds.mem_stamps (h : Holds t f stamps made) {s : String}
    (hlast : made.reverse.lookup s = some content) : s ∈ stamps :=
  h.stamps _ (mem_of_lookup_reverse hlast)

theorem Holds.copy {stamp : String} (h : Holds t f stamps made) (hstamp : stamp ∈ stamps)
    (hrules : t.readBytes f.path = .ok content)
    (hcopy : t.copy f.path (f.backupPath stamp) = .ok t') :
    Holds t' f stamps (made ++ [(stamp, content)]) := by
  obtain ⟨content', hcontent, hwrite⟩ := FileTree.copy_eq_ok_iff.1 hcopy
  obtain rfl := Except.ok.inj (hrules.symm.trans hcontent)
  obtain ⟨place, hplace, hfolder, rfl⟩ := FileTree.writeBytes_eq_ok_iff.1 hwrite
  have hfile : t.TakesFile place := ⟨hfolder, (h.copiesApart.copies stamp hstamp place hplace).2⟩
  refine ⟨h.copiesApart.put hfile, ?_, fun s old hlast => ?_⟩
  · simpa [or_imp, forall_and, hstamp] using h.stamps
  · rw [List.reverse_append, List.reverse_singleton, List.singleton_append, List.lookup_cons] at hlast
    by_cases hs : s = stamp
    · subst hs
      obtain rfl : content = old := by simpa using hlast
      exact FileTree.readBytes_put_self hfile hplace
    · rw [beq_eq_false_iff_ne.2 hs] at hlast
      refine FileTree.readBytes_put_other hfile (h.last s old hlast) fun hsame => hs ?_
      exact h.copiesApart.apart s (h.mem_stamps hlast) stamp hstamp place hsame hplace

theorem Holds.write {text : String} (h : Holds t f stamps made) (hwrite : f.write t text = .ok t') :
    Holds t' f stamps made := by
  obtain ⟨old, hold⟩ := h.copiesApart.rules
  obtain ⟨place, hresolve, hentry⟩ := FileTree.readBytes_eq_ok_iff.1 hold
  obtain rfl := Except.ok.inj ((write_of_file hresolve hentry text).symm.trans hwrite)
  have hfile := FileTree.takesFile_of_file hentry
  have hplace := (FileTree.resolveNew_eq_ok_iff (by rw [hentry]; rfl)).2 hresolve
  refine ⟨h.copiesApart.put hfile, h.stamps, fun s content hlast => ?_⟩
  refine FileTree.readBytes_put_other hfile (h.last s content hlast) fun hsame => ?_
  exact (h.copiesApart.copies s (h.mem_stamps hlast) place hsame).1 hplace

theorem Holds.merge (h : Holds t f stamps made) (hbackup : f.backup = true)
    (hstamp : clock.stamp ∈ stamps) :
    Holds (merge t f clock batch).value.1 f stamps (made ++ (copied? t f clock batch).toList) := by
  obtain ⟨content, hrules⟩ := h.copiesApart.rules
  obtain ⟨hcopied, -, htree⟩ | ⟨t', hcopy, hcopied, ⟨-, htree⟩ | ⟨-, text, hwrite⟩⟩ :=
    merge_cases clock batch hbackup hrules
  · rw [hcopied, htree]
    simpa using h
  · rw [hcopied, htree]
    exact h.copy hstamp hrules hcopy
  · rw [hcopied]
    exact (h.copy hstamp hrules hcopy).write hwrite

theorem Holds.after (h : Holds t f stamps made) (hbackup : f.backup = true)
    (calls : List (Clock × List Value)) (hstamps : ∀ call ∈ calls, call.1.stamp ∈ stamps) :
    Holds (after f t calls) f stamps (made ++ history copied? f t calls) := by
  induction calls generalizing t made with
  | nil => simpa [history, RuleSetFile.after] using h
  | cons call rest ih =>
    obtain ⟨hstamp, hrest⟩ := List.forall_mem_cons.1 hstamps
    rw [history, ← List.append_assoc]
    exact ih (h.merge hbackup hstamp) hrest

theorem exists_copied_of_overwritten (h : Holds t f stamps made) (hbackup : f.backup = true)
    (calls : List (Clock × List Value)) (hstamps : ∀ call ∈ calls, call.1.stamp ∈ stamps) :
    ∀ content ∈ history overwritten? f t calls, ∃ s, (s, content) ∈ history copied? f t calls := by
  induction calls generalizing t made with
  | nil => simp [history]
  | cons call rest ih =>
    obtain ⟨hstamp, hrest⟩ := List.forall_mem_cons.1 hstamps
    intro content hmem
    rw [history, List.mem_append] at hmem
    rcases hmem with hmem | hmem
    · obtain ⟨old, hrules⟩ := h.copiesApart.rules
      obtain ⟨-, hover, -⟩ | ⟨t', -, hcopied, ⟨hover, -⟩ | ⟨hover, -⟩⟩ :=
        merge_cases call.1 call.2 hbackup hrules
      · simp [hover] at hmem
      · simp [hover] at hmem
      · obtain rfl : content = old := by simpa [hover] using hmem
        exact ⟨call.1.stamp, by simp [history, hcopied]⟩
    · obtain ⟨s, hs⟩ := ih (h.merge hbackup hstamp) hrest content hmem
      exact ⟨s, List.mem_append_right _ hs⟩

theorem copied?_sublist (t : FileTree) (f : RuleSetFile) (clock : Clock) (batch : List Value) :
    ((copied? t f clock batch).toList.map Prod.fst).Sublist [clock.stamp] := by
  unfold copied?
  split
  · cases t.readBytes f.path with
    | error e => exact List.nil_sublist _
    | ok content => exact List.Sublist.refl _
  · exact List.nil_sublist _

theorem stamps_sublist (f : RuleSetFile) (t : FileTree) (calls : List (Clock × List Value)) :
    ((history copied? f t calls).map Prod.fst).Sublist (calls.map fun call => call.1.stamp) := by
  induction calls generalizing t with
  | nil => exact List.Sublist.refl _
  | cons call rest ih =>
    rw [history, List.map_append, List.map_cons]
    exact (copied?_sublist t f call.1 call.2).append (ih _)

/-- What a run of merges leaves at the name of a time is the last copy of that time. So the copies of
the run hold everything that was overwritten exactly if each of these contents is the last that was
copied at some time; which is so if no two merges come at the same time. -/
theorem merges_hold_versions_iff (f : RuleSetFile) (t : FileTree)
    (calls : List (Clock × List Value)) (hbackup : f.backup = true)
    (hcopies : CopiesApart t f (calls.map fun call => call.1.stamp)) :
    let copies := history copied? f t calls
    let versions := history overwritten? f t calls
    let held content := ∃ s ∈ copies.map Prod.fst,
      (after f t calls).readBytes (f.backupPath s) = .ok content
    (∀ s content, copies.reverse.lookup s = some content →
      (after f t calls).readBytes (f.backupPath s) = .ok content) ∧
    ((∀ content ∈ versions, held content) ↔
      ∀ content ∈ versions, ∃ s, copies.reverse.lookup s = some content) ∧
    ((calls.map fun call => call.1.stamp).Nodup → ∀ content ∈ versions, held content) := by
  intro copies versions held
  have hstart : Holds t f (calls.map fun call => call.1.stamp) [] := ⟨hcopies, nofun, nofun⟩
  have hstamps : ∀ call ∈ calls, call.1.stamp ∈ calls.map fun call => call.1.stamp :=
    fun call hcall => List.mem_map_of_mem hcall
  have hend := hstart.after hbackup calls hstamps
  rw [List.nil_append] at hend
  have hheld : (∀ content ∈ versions, held content) ↔
      ∀ content ∈ versions, ∃ s, copies.reverse.lookup s = some content := by
    refine forall₂_congr fun content _ => ⟨?_, ?_⟩
    · rintro ⟨s, hs, hread⟩
      obtain ⟨last, hlast⟩ := exists_lookup_reverse hs
      obtain rfl := Except.ok.inj (hread.symm.trans (hend.last s last hlast))
      exact ⟨s, hlast⟩
    · rintro ⟨s, hlast⟩
      exact ⟨s, List.mem_map_of_mem (mem_of_lookup_reverse hlast), hend.last s content hlast⟩
  refine ⟨hend.last, hheld, fun hnodup => hheld.2 fun content hcontent => ?_⟩
  obtain ⟨s, hs⟩ := exists_copied_of_overwritten hstart hbackup calls hstamps content hcontent
  exact ⟨s, lookup_reverse_of_nodup (hnodup.sublist (stamps_sublist f t calls)) hs⟩

section Example

def plainFile : RuleSetFile := ⟨"r.json", true, .lenient 1⟩

def fileTree (text : String) (copies : List (FilePlace × FileEntry)) : FileTree :=
  ⟨(["r.json"], .file text.toUTF8) :: copies, []⟩

def ruleValue (id : String) : Value :=
  .map [(.str "id", .str id), (.str "title", .str "t"), (.str "description", .str "d"),
    (.str "category", .str "c"), (.str "conditions", .seq [])]

def rewritten? (batch : List Value) (text : String) : Option String :=
  (proposal? plainFile "2024-06-01" batch (documentOf true text)).bind fun p =>
    (plainFile.render p.1).toOption

theorem resolveNew_fileTree (text : String) (copies : List (FilePlace × FileEntry)) :
    (fileTree text copies).resolveNew "r.json" = .ok ["r.json"] :=
  FileTree.resolveNew_of_isName rfl (by decide) (by simp [fileTree, FileTree.entry?])

theorem readBytes_fileTree (text : String) (copies : List (FilePlace × FileEntry)) :
    (fileTree text copies).readBytes "r.json" = .ok text.toUTF8 :=
  FileTree.readBytes_of_isName rfl (by decide) rfl

theorem read_fileTree (text : String) (copies : List (FilePlace × FileEntry)) :
    (read (fileTree text copies) plainFile).value = documentOf true text := by
  have htext : (fileTree text copies).readText "r.json" = .ok text :=
    FileTree.readText_of_isName rfl (by decide) rfl
  have hjson : plainFile.isJson = true := by decide +kernel
  rw [read_value, hjson]
  simp only [plainFile, FileTree.exists_of_readBytes (readBytes_fileTree text copies), htext, if_true]

theorem copy_fileTree (text : String) {copies : List (FilePlace × FileEntry)}
    (h : copies = [] ∨ ∃ content, copies = [(["r.json.bak.1200"], .file content)]) :
    (fileTree text copies).copy "r.json" (plainFile.backupPath "1200") =
      .ok (fileTree text [(["r.json.bak.1200"], .file text.toUTF8)]) := by
  have hcopy : plainFile.backupPath "1200" = "r.json.bak.1200" := by decide
  rw [hcopy]
  refine FileTree.copy_eq_ok_iff.2 ⟨_, readBytes_fileTree text copies,
    FileTree.writeBytes_eq_ok_iff.2 ⟨["r.json.bak.1200"], ?_, ?_, ?_⟩⟩
  · refine FileTree.resolveNew_of_isName rfl (by decide) ?_
    rcases h with rfl | ⟨content, rfl⟩ <;> simp [fileTree, FileTree.entry?, List.lookup_cons]
  · rcases h with rfl | ⟨content, rfl⟩ <;> simp [fileTree, FileTree.entry?, List.lookup_cons]
  · rcases h with rfl | ⟨content, rfl⟩ <;> rfl

theorem merge_fileTree {text new : String} {batch : List Value}
    {copies : List (FilePlace × FileEntry)}
    (h : copies = [] ∨ ∃ content, copies = [(["r.json.bak.1200"], .file content)])
    (hnew : rewritten? batch text = some new) :
    overwritten? (fileTree text copies) plainFile ⟨"2024-06-01", "1200"⟩ batch = some text.toUTF8 ∧
      (merge (fileTree text copies) plainFile ⟨"2024-06-01", "1200"⟩ batch).value.1 =
        fileTree new [(["r.json.bak.1200"], .file text.toUTF8)] := by
  unfold rewritten? at hnew
  rw [← read_fileTree text copies] at hnew
  obtain ⟨⟨document, r⟩, hproposal, htext⟩ := Option.bind_eq_some_iff.1 hnew
  obtain ⟨haccepted, hmerge⟩ :=
    merge_of_proposal (fileTree text copies) ⟨"2024-06-01", "1200"⟩ hproposal
  have hrender : plainFile.render document = .ok new := eq_ok_of_toOption htext
  have hkept : (keepCopy (fileTree text copies) plainFile "1200").value =
      (fileTree text [(["r.json.bak.1200"], .file text.toUTF8)],
        .ok (some (plainFile.backupPath "1200"))) := by
    have hpresent : (plainFile.backup && (fileTree text copies).exists? plainFile.path) = true :=
      FileTree.exists_of_readBytes (readBytes_fileTree text copies)
    have hcopy : (fileTree text copies).copy plainFile.path (plainFile.backupPath "1200") = _ :=
      copy_fileTree text h
    rw [keepCopy_value, if_pos hpresent, hcopy]
  have hwrite : plainFile.write (fileTree text [(["r.json.bak.1200"], .file text.toUTF8)]) new =
      .ok (fileTree new [(["r.json.bak.1200"], .file text.toUTF8)]) := by
    have hresolve := (FileTree.resolveNew_eq_ok_iff rfl).1
      (resolveNew_fileTree text [(["r.json.bak.1200"], .file text.toUTF8)])
    rw [write_of_file (f := plainFile) hresolve rfl new]
    rfl
  have hread : (fileTree text copies).readBytes plainFile.path = .ok text.toUTF8 :=
    readBytes_fileTree text copies
  unfold overwritten?
  rw [hmerge, save_value, hkept, hread]
  simp only [hrender, hwrite]
  exact ⟨if_neg haccepted, trivial⟩

end Example

theorem merges_hold_versions_of_two_times :
    let t := fileTree "\x7b\x7d" []
    let calls : List (Clock × List Value) :=
      [(⟨"2024-06-01", "1200"⟩, [ruleValue "A"]), (⟨"2024-06-01", "1201"⟩, [ruleValue "B"])]
    plainFile.backup = true ∧ CopiesApart t plainFile (calls.map fun call => call.1.stamp) ∧
    "\x7b\x7d".toUTF8 ∈ history overwritten? plainFile t calls ∧
    ∀ content ∈ history overwritten? plainFile t calls,
      ∃ s ∈ (history copied? plainFile t calls).map Prod.fst,
        (after plainFile t calls).readBytes (plainFile.backupPath s) = .ok content := by
  intro t calls
  have hcopies : CopiesApart t plainFile (calls.map fun call => call.1.stamp) := by
    have hlinks : t.NoLinks := FileTree.noLinks_of_entries (by simp [t, fileTree])
    have hname : Files.Location.fileName? plainFile.path = some "r.json" := by decide
    exact copiesApart_of_noLinks hlinks (readBytes_fileTree _ []) hname (by simp [calls])
  have hfirst : (rewritten? [ruleValue "A"] "\x7b\x7d").isSome = true := by decide +kernel
  obtain ⟨first, hfirst⟩ := Option.isSome_iff_exists.1 hfirst
  have hover := (merge_fileTree (.inl rfl) hfirst).1
  exact ⟨rfl, hcopies, by simp [history, calls, t, hover],
    (merges_hold_versions_iff plainFile t calls rfl hcopies).2.2 (by simp [calls])⟩

/-- Of two merges at one time the second takes the copy that the first has made. -/
theorem merges_lose_version :
    let t := fileTree "\x7b\x7d" []
    let calls : List (Clock × List Value) :=
      [(⟨"2024-06-01", "1200"⟩, [ruleValue "A"]), (⟨"2024-06-01", "1200"⟩, [ruleValue "B"])]
    "\x7b\x7d".toUTF8 ∈ history overwritten? plainFile t calls ∧
      ∀ path, (after plainFile t calls).readBytes path ≠ .ok "\x7b\x7d".toUTF8 := by
  intro t calls
  obtain ⟨first, second, hfirst, hsecond, hne⟩ : ∃ first second,
      rewritten? [ruleValue "A"] "\x7b\x7d" = some first ∧
      rewritten? [ruleValue "B"] first = some second ∧ first ≠ "\x7b\x7d" ∧ second ≠ "\x7b\x7d" := by
    have hrun : ((rewritten? [ruleValue "A"] "\x7b\x7d").bind fun first =>
        (rewritten? [ruleValue "B"] first).map fun second => (first, second)).any
          (fun texts => texts.1 ≠ "\x7b\x7d" && texts.2 ≠ "\x7b\x7d") = true := by
      decide +kernel
    obtain ⟨⟨first, second⟩, hsome, hne⟩ := (Option.any_eq_true _ _).1 hrun
    obtain ⟨first', hfirst, hmap⟩ := Option.bind_eq_some_iff.1 hsome
    obtain ⟨second', hsecond, hpair⟩ := Option.map_eq_some_iff.1 hmap
    obtain ⟨rfl, rfl⟩ := Prod.mk.inj hpair
    exact ⟨first', second', hfirst, hsecond, by simpa using hne⟩
  obtain ⟨hover, hfirst⟩ := merge_fileTree (.inl rfl) hfirst
  obtain ⟨-, hsecond⟩ := merge_fileTree (.inr ⟨"\x7b\x7d".toUTF8, rfl⟩) hsecond
  have hafter : after plainFile t calls =
      fileTree second [(["r.json.bak.1200"], .file first.toUTF8)] := by
    simp only [after, calls, List.foldl_cons, List.foldl_nil, t, hfirst, hsecond]
  refine ⟨?_, fun path hread => ?_⟩
  · simp [history, calls, t, hover]
  · rw [hafter] at hread
    obtain ⟨place, -, hentry⟩ := FileTree.readBytes_eq_ok_iff.1 hread
    simp only [fileTree, FileTree.entry?, List.lookup_cons] at hentry
    split at hentry
    · cases hentry
    · split at hentry
      · exact hne.2 (String.toByteArray_inj.1 (FileEntry.file.inj (Option.some_inj.1 hentry)))
      · split at hentry
        · exact hne.1 (String.toByteArray_inj.1 (FileEntry.file.inj (Option.some_inj.1 hentry)))
        · cases hentry

end StorePolicy.RuleSetFile

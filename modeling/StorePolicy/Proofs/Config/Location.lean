import StorePolicy.Config.File
import StorePolicy.Proofs.Files.Writing

/-!
# Where configurations are

The rules path of a configuration is taken from the directory of its file, and only then is it
checked. So an empty rules path is refused where the path of the file is a single name, and where
it names a directory the rules path is that directory and is accepted. Otherwise the text and the
ending of the name of the file tell whether it is accepted and what the fault is.
-/
namespace StorePolicy.Config

open Files

variable {t t' : FileTree} {path path' base text : String} {c c' : Config} {f : LoadFault}

@[simp] theorem maxConditionDepth_relocate (path : String) (c : Config) :
    (relocate path c).engine.maxConditionDepth = c.engine.maxConditionDepth := by
  unfold relocate
  split
  · rfl
  · split <;> rfl

theorem rulesPath_relocate_eq_empty_iff (hparent : Location.parent? path = some base) :
    (relocate path c).engine.rulesPath = "" ↔ c.engine.rulesPath = "" ∧ base = "" := by
  unfold relocate
  split
  · next habsolute =>
    have hne : c.engine.rulesPath ≠ "" := by
      intro hempty
      rw [hempty] at habsolute
      cases habsolute
    simp [hne]
  · rw [hparent]
    exact Location.join_eq_empty_iff.trans and_comm

theorem parent?_of_readText (h : t.readText path = .ok text) :
    ∃ p, Location.parent? path = some p ∧ (p = "" ↔ '/' ∉ path.toList) := by
  obtain ⟨content, hread, -⟩ := FileTree.readText_eq_ok_iff.1 h
  obtain ⟨place, hresolve, hentry⟩ := FileTree.readBytes_eq_ok_iff.1 hread
  exact FileTree.parent?_of_file hresolve (by rw [FileTree.isFolderAt, hentry])

def readAs (path text : String) : Except LoadFault Config :=
  ofText ((Location.extension? path).getD "") text

theorem load_value (h : t.readText path = .ok text) :
    (load t path).value = ofFileText path text := by
  simp [load, h]

theorem load_of_error (h : t.readText path = .ok text) (hread : readAs path text = .error f) :
    (load t path).value = .error f := by
  rw [load_value h, ofFileText, ← readAs, hread]
  rfl

theorem validate_relocate (h : t.readText path = .ok text) (c : Config) :
    (relocate path c).validate =
      if c.engine.maxConditionDepth = 0 then .error .zeroDepth
      else if c.engine.rulesPath = "" ∧ '/' ∉ path.toList then .error .emptyRulesPath
      else .ok () := by
  obtain ⟨base, hparent, hbase⟩ := parent?_of_readText h
  have hempty : (relocate path c).engine.rulesPath.isEmpty = true ↔
      c.engine.rulesPath = "" ∧ '/' ∉ path.toList := by
    rw [String.isEmpty_iff, rulesPath_relocate_eq_empty_iff hparent, hbase]
  simp only [validate, maxConditionDepth_relocate, hempty]

theorem load_of_ok (h : t.readText path = .ok text) (hread : readAs path text = .ok c) :
    (load t path).value =
      if c.engine.maxConditionDepth = 0 then .error (.invalid .zeroDepth)
      else if c.engine.rulesPath = "" ∧ '/' ∉ path.toList then .error (.invalid .emptyRulesPath)
      else .ok (relocate path c) := by
  have hcheck : (load t path).value =
      ((relocate path c).validate.mapError LoadFault.invalid).map fun _ => relocate path c := by
    rw [load_value h, ofFileText, ← readAs, hread]
    simp only [bind, Except.bind]
    cases (relocate path c).validate <;> rfl
  rw [hcheck, validate_relocate h]
  by_cases hdepth : c.engine.maxConditionDepth = 0
  · rw [if_pos hdepth, if_pos hdepth]
    rfl
  · rw [if_neg hdepth, if_neg hdepth]
    by_cases hempty : c.engine.rulesPath = "" ∧ '/' ∉ path.toList
    · rw [if_pos hempty, if_pos hempty]
      rfl
    · rw [if_neg hempty, if_neg hempty]
      rfl

def LacksRulesPath (path text : String) : Prop :=
  ∃ c, readAs path text = .ok c ∧ c.engine.maxConditionDepth ≠ 0 ∧ c.engine.rulesPath = ""

theorem load_of_lacksRulesPath (h : t.readText path = .ok text) (hlacks : LacksRulesPath path text) :
    ((load t path).value = .error (.invalid .emptyRulesPath) ↔ '/' ∉ path.toList) ∧
      ((load t path).value.isOk = true ↔ '/' ∈ path.toList) := by
  obtain ⟨c, hread, hdepth, hempty⟩ := hlacks
  rw [load_of_ok h hread, if_neg hdepth]
  by_cases hslash : '/' ∈ path.toList
  · simp [hslash, Except.isOk, Except.toBool]
  · simp [hslash, hempty, Except.isOk, Except.toBool]

theorem load_eq_error_iff (h : t.readText path = .ok text)
    (h' : t'.readText path' = .ok text) (hread : readAs path' text = readAs path text)
    (halike : LacksRulesPath path text → ('/' ∈ path.toList ↔ '/' ∈ path'.toList)) (f : LoadFault) :
    (load t path).value = .error f ↔ (load t' path').value = .error f := by
  cases hc : readAs path text with
  | error fault => rw [load_of_error h hc, load_of_error h' (hread.trans hc)]
  | ok c =>
    rw [load_of_ok h hc, load_of_ok h' (hread.trans hc)]
    by_cases hdepth : c.engine.maxConditionDepth = 0
    · rw [if_pos hdepth, if_pos hdepth]
    · rw [if_neg hdepth, if_neg hdepth]
      by_cases hempty : c.engine.rulesPath = ""
      · simp only [halike ⟨c, hc, hdepth, hempty⟩]
        split <;> simp
      · simp [hempty]

/-- Files with one text and one ending of their names are accepted alike, and refused for the same fault,
unless the rules path is empty and one path names a directory where the other does not. An empty rules
path is refused exactly where no directory is named, and a bound of zero everywhere. -/
theorem acceptance_iff (h : t.readText path = .ok text) (h' : t'.readText path' = .ok text)
    (hextension : Location.extension? path' = Location.extension? path) :
    ((load t path).value.isOk = (load t' path').value.isOk ↔
        (LacksRulesPath path text → ('/' ∈ path.toList ↔ '/' ∈ path'.toList))) ∧
      ((load t path).value.isOk = (load t' path').value.isOk →
        ∀ f, (load t path).value = .error f ↔ (load t' path').value = .error f) ∧
      (∀ c, readAs path text = .ok c → c.engine.maxConditionDepth = 0 →
        (load t path).value = .error (.invalid .zeroDepth)) ∧
      (LacksRulesPath path text →
        ((load t path).value = .error (.invalid .emptyRulesPath) ↔ '/' ∉ path.toList) ∧
          ((load t path).value.isOk = true ↔ '/' ∈ path.toList)) := by
  have hread : readAs path' text = readAs path text := by rw [readAs, hextension, readAs]
  have hlacks : LacksRulesPath path' text ↔ LacksRulesPath path text := by
    rw [LacksRulesPath, hread, LacksRulesPath]
  have hplace : (load t path).value.isOk = (load t' path').value.isOk →
      LacksRulesPath path text → ('/' ∈ path.toList ↔ '/' ∈ path'.toList) := by
    intro hsame hlack
    rw [← (load_of_lacksRulesPath h hlack).2, hsame, (load_of_lacksRulesPath h' (hlacks.2 hlack)).2]
  refine ⟨⟨hplace, fun halike => ?_⟩, fun hsame => load_eq_error_iff h h' hread (hplace hsame), ?_,
    load_of_lacksRulesPath h⟩
  · exact isOk_eq_of_faults (load_eq_error_iff h h' hread halike)
  · intro c hc hdepth
    rw [load_of_ok h hc, if_pos hdepth]

section Example

def twoPlaces (text : String) : FileTree :=
  ⟨[(["c.yaml"], .file text.toUTF8), (["d"], .folder), (["d", "c.yaml"], .file text.toUTF8)], []⟩

theorem readText_twoPlaces (text : String) :
    (twoPlaces text).readText "c.yaml" = .ok text ∧
      (twoPlaces text).readText "d/c.yaml" = .ok text := by
  have hmoves : moves "d/c.yaml" = [.down "d", .down "c.yaml"] := by decide
  have hrefuses : refuses "d/c.yaml" = none := by decide
  have hrelative : Location.isAbsolute "d/c.yaml" = false := by decide
  have hbytes : "d".utf8ByteSize = 1 ∧ "c.yaml".utf8ByteSize = 6 := ⟨rfl, rfl⟩
  have hentry : FileTree.entry? (twoPlaces text) ["d", "c.yaml"] = some (.file text.toUTF8) := by
    simp [twoPlaces, FileTree.entry?, List.lookup_cons]
  have hresolve : (twoPlaces text).resolve "d/c.yaml" = .ok ["d", "c.yaml"] := by
    simp [FileTree.resolve, FileTree.follow, FileTree.start, FileTree.isFolderAt, FileTree.entry?,
      hmoves, hrefuses, hbytes, hrelative, twoPlaces, List.lookup_cons, maxNameBytes]
  have hread := FileTree.readBytes_eq_ok_iff.2 ⟨_, hresolve, hentry⟩
  exact ⟨FileTree.readText_of_isName rfl (by decide) rfl,
    FileTree.readText_eq_ok_iff.2 ⟨_, hread, FileTree.fromUTF8?_toUTF8 text⟩⟩

theorem acceptance_of_zero_depth :
    let text := "engine:\n  max_condition_depth: 0\n  rules_path: ''\n"
    let t := twoPlaces text
    t.readText "c.yaml" = .ok text ∧ t.readText "d/c.yaml" = .ok text ∧
      Location.extension? "d/c.yaml" = Location.extension? "c.yaml" ∧
      (load t "c.yaml").value = .error (.invalid .zeroDepth) ∧
      (load t "d/c.yaml").value = .error (.invalid .zeroDepth) := by
  intro text t
  obtain ⟨h, h'⟩ := readText_twoPlaces text
  have hextension : Location.extension? "d/c.yaml" = Location.extension? "c.yaml" := by decide
  let c : Config :=
    ⟨{ EngineConfig.usual with maxConditionDepth := 0, rulesPath := "" }, .usual, .usual⟩
  have hread : readAs "c.yaml" text = .ok c := eq_ok_of_toOption (by decide +kernel)
  have hlacks : ¬LacksRulesPath "c.yaml" text := by
    rintro ⟨c', hc', hdepth, -⟩
    obtain rfl := Except.ok.inj (hread.symm.trans hc')
    exact hdepth rfl
  obtain ⟨halike, hfaults, hzero, -⟩ := acceptance_iff h h' hextension
  have hrefused := hzero c hread rfl
  exact ⟨h, h', hextension, hrefused,
    (hfaults (halike.2 fun hlack => absurd hlack hlacks) _).1 hrefused⟩

/-- An empty rules path is refused at the top, and the same text is accepted in a folder. -/
theorem acceptance_depends_on_place :
    let text := "engine:\n  rules_path: ''\n"
    let t := twoPlaces text
    t.readText "c.yaml" = .ok text ∧ t.readText "d/c.yaml" = .ok text ∧
      Location.extension? "d/c.yaml" = Location.extension? "c.yaml" ∧
      (load t "c.yaml").value = .error (.invalid .emptyRulesPath) ∧
      (load t "d/c.yaml").value.isOk = true := by
  intro text t
  obtain ⟨h, h'⟩ := readText_twoPlaces text
  have hextension : Location.extension? "d/c.yaml" = Location.extension? "c.yaml" := by decide
  let c : Config := ⟨{ EngineConfig.usual with rulesPath := "" }, .usual, .usual⟩
  have hread : readAs "c.yaml" text = .ok c := eq_ok_of_toOption (by decide +kernel)
  have hread' : readAs "d/c.yaml" text = .ok c := by
    rw [readAs, hextension]
    exact hread
  refine ⟨h, h', hextension, ?_, ?_⟩
  · exact (load_of_lacksRulesPath h ⟨c, hread, by decide, rfl⟩).1.2 (by decide)
  · exact (load_of_lacksRulesPath h' ⟨c, hread', by decide, rfl⟩).2.2 (by decide)

end Example

end StorePolicy.Config

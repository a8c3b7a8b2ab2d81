import StorePolicy.Merge.File
import StorePolicy.Proofs.Files.Writing
import StorePolicy.Proofs.Merge.Expressible

/-!
# What a merge does to the files

A merge reads, keeps a copy, renders and writes, in this order. It changes no file unless candidates
were accepted; and if they were, a rendering that fails comes after the copy. So a copy is left of a
file that was not overwritten, exactly if a candidate that is accepted into JSON brings a key that
JSON has no text for.
-/
namespace StorePolicy.RuleSetFile

open Merge

variable {t : FileTree} {f : RuleSetFile} {clock : Clock} {batch : List Value}

/-- The system does not fail to copy the rule-set, nor to write it, once it was read. -/
structure CallsSucceed (t : FileTree) (f : RuleSetFile) (stamp : String) : Prop where
  copies : ∀ document, (read t f).value = .ok document → f.backup = true → t.exists? f.path = true →
    ∃ t', t.copy f.path (f.backupPath stamp) = .ok t'
  writes : ∀ document, (read t f).value = .ok document → ∀ t',
    t' = t ∨ t.copy f.path (f.backupPath stamp) = .ok t' → ∀ text, ∃ t'', f.write t' text = .ok t''

def Fruitless (outcome : Except Merge.Fault MergeReport) : Prop :=
  ∀ r, outcome = .ok r → r.accepted = 0

structure LeavesCopy (t : FileTree) (f : RuleSetFile) (stamp : String) (batch : List Value) :
    Prop where
  json : f.isJson = true
  backup : f.backup = true
  present : t.exists? f.path = true
  document : ∃ document, (read t f).value = .ok document ∧ Mergeable document
  candidate : ∃ id v, latest? id (accepted f.acceptance batch) = some v ∧ toJson? v = none
  fresh : t.readBytes (f.backupPath stamp) ≠ t.readBytes f.path

theorem render_eq_error_iff {document : Value} :
    (∃ e, f.render document = .error e) ↔ f.isJson = true ∧ ¬Expressible document := by
  unfold render Expressible
  cases f.isJson with
  | false => simp
  | true => cases toJson? document <;> simp

theorem merge_value (t : FileTree) (f : RuleSetFile) (clock : Clock) (batch : List Value) :
    (merge t f clock batch).value =
      match (read t f).value with
      | .error e => (t, .error e)
      | .ok document =>
        match (candidates f.acceptance clock.today document batch).value with
        | .error e => (t, .error e)
        | .ok (document, r) =>
          if r.accepted = 0 then (t, .ok r) else (save t f clock.stamp document r).value := by
  rw [merge, Traced.value_bind]
  cases (read t f).value with
  | error e => rfl
  | ok document =>
    simp only [Traced.value_bind]
    cases (candidates f.acceptance clock.today document batch).value with
    | error e => rfl
    | ok x =>
      simp only
      split <;> rfl

theorem keepCopy_value (t : FileTree) (f : RuleSetFile) (stamp : String) :
    (keepCopy t f stamp).value =
      if f.backup && t.exists? f.path then
        match t.copy f.path (f.backupPath stamp) with
        | .error e => (t, .error (.io f.path e))
        | .ok t' => (t', .ok (some (f.backupPath stamp)))
      else (t, .ok none) := by
  unfold keepCopy
  split
  · simp only
    cases t.copy f.path (f.backupPath stamp) <;> rfl
  · rfl

theorem save_value (t : FileTree) (f : RuleSetFile) (stamp : String) (document : Value)
    (r : MergeReport) :
    (save t f stamp document r).value =
      match (keepCopy t f stamp).value with
      | (t, .error e) => (t, .error e)
      | (t, .ok copy) =>
        match f.render document with
        | .error e => (t, .error e)
        | .ok text =>
          match f.write t text with
          | .error e => (t, .error (.io f.path e))
          | .ok t => (t, .ok { r with backup := copy }) := by
  rw [save, Traced.value_bind]
  cases (keepCopy t f stamp).value with
  | mk t kept =>
    cases kept with
    | error e => rfl
    | ok copy =>
      simp only
      cases f.render document with
      | error e => rfl
      | ok text =>
        simp only
        cases f.write t text <;> rfl

def Unrendered (t : FileTree) (f : RuleSetFile) (today : String) (batch : List Value) : Prop :=
  ∃ document new r e, (read t f).value = .ok document ∧
    (candidates f.acceptance today document batch).value = .ok (new, r) ∧ r.accepted ≠ 0 ∧
    f.render new = .error e

theorem read_value (t : FileTree) (f : RuleSetFile) :
    (read t f).value =
      if t.exists? f.path then
        match t.readText f.path with
        | .error e => .error (.io f.path e)
        | .ok text => documentOf f.isJson text
      else .ok emptyDocument := by
  rw [read, Traced.value_bind]
  cases t.exists? f.path with
  | false => rfl
  | true => cases t.readText f.path <;> rfl

theorem expressible_of_documentOf {text : String} {document : Value}
    (h : documentOf true text = .ok document) : Expressible document := by
  simp only [documentOf, if_true] at h
  split at h
  · obtain rfl := Except.ok.inj h
    exact expressible_emptyDocument
  · split at h
    · next v hv =>
      split at h
      · cases h
      · obtain rfl := Except.ok.inj h
        split at hv
        · split
          · exact expressible_emptyDocument
          · exact expressible_of_value? hv
        · cases hv
    · cases h

theorem expressible_of_read {document : Value} (hjson : f.isJson = true)
    (h : (read t f).value = .ok document) : Expressible document := by
  rw [read_value, hjson] at h
  split at h
  · cases htext : t.readText f.path with
    | error e => simp [htext] at h
    | ok text =>
      rw [htext] at h
      exact expressible_of_documentOf h
  · obtain rfl := Except.ok.inj h
    exact expressible_emptyDocument

/-- Rendering fails exactly if the file is JSON and a candidate that is merged into it has a key
without a text. -/
theorem unrendered_iff {today : String} :
    Unrendered t f today batch ↔ f.isJson = true ∧
      (∃ document, (read t f).value = .ok document ∧ Mergeable document) ∧
      ∃ id v, latest? id (accepted f.acceptance batch) = some v ∧ toJson? v = none := by
  have hcandidate : (∃ id v, latest? id (accepted f.acceptance batch) = some v ∧ toJson? v = none) ↔
      ¬∀ id v, latest? id (accepted f.acceptance batch) = some v → Expressible v := by
    simp [Expressible]
  rw [hcandidate]
  constructor
  · intro h
    obtain ⟨document, new, r, e, hread, hmerged, -, hrender⟩ := h
    have hmergeable := mergeable_of_candidates hmerged
    obtain ⟨hjson, hinexpressible⟩ := render_eq_error_iff.1 ⟨e, hrender⟩
    rw [candidates_eq hmergeable] at hmerged
    obtain ⟨rfl, -⟩ := Prod.mk.inj (Except.ok.inj hmerged)
    rw [expressible_merged_iff hmergeable (expressible_of_read hjson hread)] at hinexpressible
    exact ⟨hjson, ⟨document, hread, hmergeable⟩, hinexpressible⟩
  · intro h
    obtain ⟨hjson, ⟨document, hread, hmergeable⟩, hcandidate⟩ := h
    have hrender := hcandidate
    rw [← expressible_merged_iff hmergeable (expressible_of_read hjson hread) today] at hrender
    obtain ⟨e, hrender⟩ := render_eq_error_iff.2 ⟨hjson, hrender⟩
    refine ⟨document, _, _, e, hread, candidates_eq hmergeable _ _ _, ?_, hrender⟩
    have haccepted : accepted f.acceptance batch ≠ [] := by
      intro hnil
      simp [hnil, latest?] at hcandidate
    exact Nat.pos_iff_ne_zero.1 ((Progress.run_accepted_pos_iff _ _ _ _ rfl).2 haccepted)

theorem merge_of_unrendered (h : Unrendered t f clock.today batch) :
    (merge t f clock batch).value.1 = (keepCopy t f clock.stamp).value.1 ∧
      ∃ e, (merge t f clock batch).value.2 = .error e := by
  obtain ⟨document, new, r, e, hread, hmerged, haccepted, hrender⟩ := h
  rw [merge_value, hread]
  simp only [hmerged, haccepted, if_false, save_value, hrender]
  cases (keepCopy t f clock.stamp).value with
  | mk t kept =>
    cases kept with
    | error e' => exact ⟨rfl, e', rfl⟩
    | ok copy => exact ⟨rfl, e, rfl⟩

theorem keepCopy_of_callsSucceed {stamp : String} {document : Value}
    (hcalls : CallsSucceed t f stamp) (hread : (read t f).value = .ok document) :
    ∃ t' copy, (keepCopy t f stamp).value = (t', .ok copy) ∧
      (t' = t ∨ t.copy f.path (f.backupPath stamp) = .ok t') := by
  rw [keepCopy_value]
  split
  · next h =>
    obtain ⟨hbackup, hpresent⟩ := Bool.and_eq_true_iff.1 h
    obtain ⟨t', hcopy⟩ := hcalls.copies document hread hbackup hpresent
    exact ⟨t', _, by rw [hcopy], Or.inr hcopy⟩
  · exact ⟨t, none, rfl, Or.inl rfl⟩

theorem merge_tree_of_not_unrendered (hcalls : CallsSucceed t f clock.stamp)
    (hfruitless : Fruitless (merge t f clock batch).value.2)
    (h : ¬Unrendered t f clock.today batch) : (merge t f clock batch).value.1 = t := by
  rw [merge_value] at hfruitless ⊢
  cases hread : (read t f).value with
  | error e => rfl
  | ok document =>
    simp only [hread] at hfruitless ⊢
    cases hmerged : (candidates f.acceptance clock.today document batch).value with
    | error e => rfl
    | ok x =>
      obtain ⟨new, r⟩ := x
      simp only [hmerged] at hfruitless ⊢
      by_cases haccepted : r.accepted = 0
      · rw [if_pos haccepted]
      · cases hrender : f.render new with
        | error e => exact absurd ⟨document, new, r, e, hread, hmerged, haccepted, hrender⟩ h
        | ok text =>
          -- nothing fails here, so the report would say that candidates were accepted
          obtain ⟨t', copy, hkept, htree⟩ := keepCopy_of_callsSucceed hcalls hread
          obtain ⟨t'', hwrite⟩ := hcalls.writes document hread t' htree text
          simp only [haccepted, if_false, save_value, hkept, hrender, hwrite] at hfruitless
          exact absurd (hfruitless _ rfl) haccepted

theorem keepCopy_unchanged_iff {stamp : String} {document : Value}
    (hcalls : CallsSucceed t f stamp) (hread : (read t f).value = .ok document) :
    t.Unchanged (keepCopy t f stamp).value.1 ↔
      ¬(f.backup = true ∧ t.exists? f.path = true ∧
        t.readBytes (f.backupPath stamp) ≠ t.readBytes f.path) := by
  rw [keepCopy_value]
  split
  · next h =>
    obtain ⟨hbackup, hpresent⟩ := Bool.and_eq_true_iff.1 h
    obtain ⟨t', hcopy⟩ := hcalls.copies document hread hbackup hpresent
    simp only [hcopy, FileTree.copy_unchanged_iff hcopy]
    simp [hbackup, hpresent]
  · next h =>
    rw [Bool.and_eq_true] at h
    exact iff_of_true t.unchanged_refl fun hkept => h ⟨hkept.1, hkept.2.1⟩

theorem leavesCopy_iff {stamp : String} (today : String) :
    LeavesCopy t f stamp batch ↔ Unrendered t f today batch ∧ f.backup = true ∧
      t.exists? f.path = true ∧ t.readBytes (f.backupPath stamp) ≠ t.readBytes f.path := by
  rw [unrendered_iff]
  constructor
  · intro h
    exact ⟨⟨h.json, h.document, h.candidate⟩, h.backup, h.present, h.fresh⟩
  · intro h
    obtain ⟨⟨hjson, hdocument, hcandidate⟩, hbackup, hpresent, hfresh⟩ := h
    exact ⟨hjson, hbackup, hpresent, hdocument, hcandidate, hfresh⟩

theorem write_of_file {place : FilePlace} {content : ByteArray}
    (hresolve : t.resolve f.path = .ok place)
    (hentry : t.entry? place = some (.file content)) (text : String) :
    f.write t text = .ok (t.put place (.file text.toUTF8)) := by
  have hnew := (FileTree.resolveNew_eq_ok_iff (by rw [hentry]; rfl)).2 hresolve
  have hwrite : t.writeText f.path text = .ok (t.put place (.file text.toUTF8)) :=
    FileTree.writeBytes_eq_ok_iff.2 ⟨place, hnew, by simp [hentry], rfl⟩
  unfold write
  cases hparent : Files.Location.parent? f.path with
  | none => exact hwrite
  | some p =>
    simp only [FileTree.makeFolders_parent? hresolve hparent]
    exact hwrite

section Example

def ruleSetTree (others : List (FilePlace × FileEntry)) : FileTree :=
  ⟨(["r.json"], .file ⟨#[]⟩) :: others, []⟩

theorem resolve_ruleSetTree (others : List (FilePlace × FileEntry)) :
    (ruleSetTree others).resolve "r.json" = .ok ["r.json"] := by
  have hnew : (ruleSetTree others).resolveNew "r.json" = .ok ["r.json"] :=
    FileTree.resolveNew_of_isName rfl (by decide) (by simp [ruleSetTree, FileTree.entry?])
  exact (FileTree.resolveNew_eq_ok_iff rfl).1 hnew

theorem readBytes_ruleSetTree (others : List (FilePlace × FileEntry)) :
    (ruleSetTree others).readBytes "r.json" = .ok ⟨#[]⟩ :=
  FileTree.readBytes_eq_ok_iff.2 ⟨_, resolve_ruleSetTree others, rfl⟩

theorem exists_ruleSetTree (others : List (FilePlace × FileEntry)) :
    (ruleSetTree others).exists? "r.json" = true := by
  rw [FileTree.exists?, FileTree.stat, resolve_ruleSetTree]
  rfl

theorem read_ruleSetTree (others : List (FilePlace × FileEntry)) :
    (read (ruleSetTree others) (.new "r.json")).value = .ok emptyDocument := by
  have htext : (ruleSetTree others).readText "r.json" = .ok "" := by
    rw [FileTree.readText, readBytes_ruleSetTree]
    rfl
  rw [read_value]
  simp only [new, exists_ruleSetTree, htext, if_true]
  rfl

theorem exists_write_ruleSetTree (others : List (FilePlace × FileEntry)) (text : String) :
    ∃ t', (new "r.json").write (ruleSetTree others) text = .ok t' :=
  ⟨_, write_of_file (resolve_ruleSetTree others) rfl text⟩

theorem backupPath_ruleSetTree : (new "r.json").backupPath "1200" = "r.json.bak.1200" := by
  decide

theorem copy_ruleSetTree :
    (ruleSetTree []).copy "r.json" ((new "r.json").backupPath "1200") =
      .ok (ruleSetTree [(["r.json.bak.1200"], .file ⟨#[]⟩)]) := by
  have hmissing : FileTree.entry? (ruleSetTree []) ["r.json.bak.1200"] = none := rfl
  have hresolve : (ruleSetTree []).resolveNew "r.json.bak.1200" = .ok ["r.json.bak.1200"] :=
    FileTree.resolveNew_of_isName rfl (by decide) (by simp [hmissing])
  rw [backupPath_ruleSetTree]
  exact FileTree.copy_eq_ok_iff.2 ⟨_, readBytes_ruleSetTree [],
    FileTree.writeBytes_eq_ok_iff.2 ⟨_, hresolve, by simp [hmissing], rfl⟩⟩

theorem callsSucceed_ruleSetTree : CallsSucceed (ruleSetTree []) (.new "r.json") "1200" := by
  refine ⟨fun _ _ _ _ => ⟨_, copy_ruleSetTree⟩, fun _ _ t' h text => ?_⟩
  rcases h with rfl | h
  · exact exists_write_ruleSetTree [] text
  · obtain rfl := Except.ok.inj (copy_ruleSetTree.symm.trans h)
    exact exists_write_ruleSetTree _ text

end Example

/-- A merge that fails or accepts nothing changes a file exactly if it leaves a copy behind, and then
nothing but the copy. -/
theorem merge_unchanged_iff (t : FileTree) (f : RuleSetFile) (clock : Clock) (batch : List Value)
    (hcalls : CallsSucceed t f clock.stamp)
    (hfruitless : Fruitless (merge t f clock batch).value.2) :
    ((merge t f clock batch).value.1 = t ∨
      t.copy f.path (f.backupPath clock.stamp) = .ok (merge t f clock batch).value.1) ∧
    (t.Unchanged (merge t f clock batch).value.1 ↔ ¬LeavesCopy t f clock.stamp batch) := by
  rw [leavesCopy_iff clock.today]
  by_cases h : Unrendered t f clock.today batch
  · obtain ⟨-, ⟨document, hread, -⟩, -⟩ := unrendered_iff.1 h
    obtain ⟨t', copy, hkept, htree⟩ := keepCopy_of_callsSucceed hcalls hread
    have hunchanged := keepCopy_unchanged_iff hcalls hread
    rw [(merge_of_unrendered h).1]
    rw [hkept] at hunchanged ⊢
    exact ⟨htree, hunchanged.trans (by simp [h])⟩
  · rw [merge_tree_of_not_unrendered hcalls hfruitless h]
    exact ⟨Or.inl rfl, iff_of_true t.unchanged_refl fun hleaves => h hleaves.1⟩

theorem merge_unchanged_of_no_id :
    let clock : Clock := ⟨"2024-06-01", "1200"⟩
    let f : RuleSetFile := .new "r.json"
    let t := ruleSetTree []
    CallsSucceed t f clock.stamp ∧ Fruitless (merge t f clock [.null]).value.2 ∧
      (t.Unchanged (merge t f clock [.null]).value.1 ↔ ¬LeavesCopy t f clock.stamp [.null]) := by
  intro clock f t
  have hfruitless : Fruitless (merge t f clock [.null]).value.2 := by
    rw [merge_value, read_ruleSetTree]
    intro r hr
    obtain rfl := Except.ok.inj hr
    rfl
  exact ⟨callsSucceed_ruleSetTree, hfruitless,
    (merge_unchanged_iff t f clock [.null] callsSucceed_ruleSetTree hfruitless).2⟩

/-- A candidate with a list for a key is accepted, and cannot be written as JSON: the merge fails, and
leaves a copy of a file that it did not overwrite. -/
theorem merge_leaves_copy :
    let condition : Value := .map [(.str "type", .str "file_exists"), (.str "target", .str "a.txt")]
    let metadata : Value := .map [(.str "source_url", .str "u"), (.str "quote", .str "q"),
      (.str "ai_reasoning", .str "r")]
    let candidate : Value := .map [(.str "id", .str "NEW_1"), (.str "title", .str "t"),
      (.str "description", .str "d"), (.str "category", .str "c"),
      (.str "conditions", .seq [condition]), (.str "notes", .map [(.seq [.int 1], .str "x")]),
      (.str "metadata", metadata)]
    let clock : Clock := ⟨"2024-06-01", "1200"⟩
    let f : RuleSetFile := .new "r.json"
    let t := ruleSetTree []
    CallsSucceed t f clock.stamp ∧ (∃ e, (merge t f clock [candidate]).value.2 = .error e) ∧
      t.entry? ["r.json.bak.1200"] = none ∧
      FileTree.entry? (merge t f clock [candidate]).value.1 ["r.json.bak.1200"] =
        some (.file ⟨#[]⟩) := by
  intro condition metadata candidate clock f t
  have hunrendered : Unrendered t f clock.today [candidate] :=
    unrendered_iff.2 ⟨by decide +kernel,
      ⟨emptyDocument, read_ruleSetTree [], mergeable_emptyDocument⟩, "NEW_1", candidate, rfl, rfl⟩
  obtain ⟨htree, herror⟩ := merge_of_unrendered hunrendered
  have hkept : (keepCopy t f clock.stamp).value.1 =
      ruleSetTree [(["r.json.bak.1200"], .file ⟨#[]⟩)] := by
    have hpresent : (f.backup && t.exists? f.path) = true := exists_ruleSetTree []
    have hcopy : t.copy f.path (f.backupPath clock.stamp) = _ := copy_ruleSetTree
    rw [keepCopy_value, if_pos hpresent, hcopy]
  refine ⟨callsSucceed_ruleSetTree, herror, rfl, ?_⟩
  rw [htree, hkept]
  rfl

end StorePolicy.RuleSetFile

import StorePolicy.Config
import StorePolicy.Files.Edit
import StorePolicy.Merge
import StorePolicy.Merge.JsonForm
import StorePolicy.RuleSet.File
import StorePolicy.Yaml.Printer

/-!
# Merging into files

The rule-set document is read from its file, changed, and written back in the format of the
file. Before it is overwritten a copy is kept beside it, named by the time. Nothing is written if
no candidate was accepted.
-/
namespace StorePolicy

structure RuleSetFile where
  path : String
  backup : Bool
  acceptance : Acceptance

structure Clock where
  today : String
  stamp : String

namespace RuleSetFile

def new (path : String) : RuleSetFile := ⟨path, true, .strict .usual⟩

def ofConfig (c : Config) : RuleSetFile where
  path := c.engine.rulesPath
  backup := c.merge.backup
  acceptance :=
    if c.merge.strict then .strict c.settings else .lenient c.engine.maxConditionDepth

def isJson (f : RuleSetFile) : Bool := RuleSet.isJsonPath f.path

def documentOf (json : Bool) (text : String) : Except Merge.Fault Value :=
  if Text.blank text then .ok Merge.emptyDocument
  else if json then
    let outline := Json.TextOutline.ofString text
    match if outline.closed then outline.root.value? else none with
    | some v =>
      if !Merge.distinctKeys v then .error .json
      else .ok (if v.isNull then Merge.emptyDocument else v)
    | none => .error .json
  else
    match Yaml.parse? text with
    | some v => .ok (if v.isNull then Merge.emptyDocument else v)
    | none => .error .yaml

def read (t : FileTree) (f : RuleSetFile) : Traced (Except Merge.Fault Value) := do
  Traced.noteOpened f.path
  if !t.exists? f.path then pure (.ok Merge.emptyDocument)
  else
    match t.readText f.path with
    | .error e => pure (.error (.io f.path e))
    | .ok text => pure (documentOf f.isJson text)

/-- As YAML every document is written that was read from a text, as no tag in it stands on another. -/
def render (f : RuleSetFile) (document : Value) : Except Merge.Fault String :=
  if f.isJson then
    match Merge.toJson? document with
    | some j => .ok j.indented
    | none => .error .json
  else .ok (Yaml.print document)

def backupPath (f : RuleSetFile) (stamp : String) : String :=
  let name := (Files.Location.fileName? f.path).getD "rules.yaml"
  Files.Location.withFileName f.path (name ++ ".bak." ++ stamp)

def keepCopy (t : FileTree) (f : RuleSetFile) (stamp : String) :
    Traced (FileTree × Except Merge.Fault (Option String)) :=
  if f.backup && t.exists? f.path then
    let copy := f.backupPath stamp
    match t.copy f.path copy with
    | .error e => pure (t, .error (.io f.path e))
    | .ok t => do
      Traced.log .info ("Created backup: " ++ copy)
      pure (t, .ok (some copy))
  else pure (t, .ok none)

def write (t : FileTree) (f : RuleSetFile) (text : String) : Except Files.Fault FileTree := do
  let t ← match Files.Location.parent? f.path with
    | some folder => t.makeFolders folder
    | none => pure t
  t.writeText f.path text

def savedLog (f : RuleSetFile) (r : MergeReport) : String :=
  "Saved " ++ toString r.total ++ " rules to " ++ f.path ++ " (" ++ toString r.added.length ++
    " added, " ++ toString r.updated.length ++ " updated, " ++ toString r.rejected.length ++
    " rejected)"

def save (t : FileTree) (f : RuleSetFile) (stamp : String) (document : Value) (r : MergeReport) :
    Traced (FileTree × Except Merge.Fault MergeReport) := do
  match ← keepCopy t f stamp with
  | (t, .error e) => pure (t, .error e)
  | (t, .ok copy) =>
    match f.render document with
    | .error e => pure (t, .error e)
    | .ok text =>
      match f.write t text with
      | .error e => pure (t, .error (.io f.path e))
      | .ok t =>
        Traced.log .info (f.savedLog r)
        pure (t, .ok { r with backup := copy })

def merge (t : FileTree) (f : RuleSetFile) (clock : Clock) (batch : List Value) :
    Traced (FileTree × Except Merge.Fault MergeReport) := do
  match ← read t f with
  | .error e => pure (t, .error e)
  | .ok document =>
    match ← Merge.candidates f.acceptance clock.today document batch with
    | .error e => pure (t, .error e)
    | .ok (document, r) =>
      if r.accepted = 0 then
        Traced.log .info ("No candidates accepted, " ++ f.path ++ " left unchanged")
        pure (t, .ok r)
      else save t f clock.stamp document r

end RuleSetFile
end StorePolicy

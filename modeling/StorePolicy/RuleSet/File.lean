import StorePolicy.Files.Tree
import StorePolicy.RuleSet.Codec
import StorePolicy.Trace

/-!
# Files of rule-sets

A rule-set is read from a file as JSON if the name of the file says so, and as YAML
otherwise.
-/
namespace StorePolicy.RuleSet

inductive LoadFault where
  | io (f : Files.Fault)
  | json (f : Failure)
  | yaml (f : Failure)
  | schema (f : SchemaFault)

def LoadFault.message : LoadFault → String
  | .io f => "IO error: " ++ f.message
  | .json f => "JSON parse error: " ++ f.message .json
  | .yaml f => "YAML parse error: " ++ f.message .yaml
  | .schema f => "Schema error: " ++ f.message

def isJsonPath (path : String) : Bool :=
  match Files.Location.extension? path with
  | some e => Text.lowerBasic e = "json"
  | none => false

def ofText (json : Bool) (s : String) : Except LoadFault RuleSet :=
  if json then (ofJsonText s).mapError .json else (ofYamlText s).mapError .yaml

def load (t : FileTree) (path : String) : Traced (Except LoadFault RuleSet) := do
  Traced.noteOpened path
  match t.readText path with
  | .error f => pure (.error (.io f))
  | .ok s => pure (ofText (isJsonPath path) s)

end StorePolicy.RuleSet

import StorePolicy.Config.Codec
import StorePolicy.Files.Tree
import StorePolicy.Trace

/-!
# Files of configurations

The name of a file tells its format. A relative rules path is taken from the directory of the
file. Without a file being named, the first of the usual names is taken that exists in the
working directory, or else in the home directory.
-/
namespace StorePolicy.Config

inductive LoadFault where
  | io (f : Files.Fault)
  | json (f : Failure)
  | yaml (f : Failure)
  | invalid (f : ConfigFault)

def LoadFault.message : LoadFault → String
  | .io f => "IO error: " ++ f.message
  | .json f => "JSON parse error: " ++ f.message .json
  | .yaml f => "YAML parse error: " ++ f.message .yaml
  | .invalid f => f.message

def ofText (extension text : String) : Except LoadFault Config :=
  if extension = "yaml" ∨ extension = "yml" then (ofYamlText text).mapError .yaml
  else if extension = "json" then (ofJsonText text).mapError .json
  else .error (.invalid (.unknownFormat extension))

def relocate (path : String) (c : Config) : Config :=
  if Files.Location.isAbsolute c.engine.rulesPath then c
  else
    match Files.Location.parent? path with
    | none => c
    | some base =>
      { c with engine := { c.engine with rulesPath := Files.Location.join base c.engine.rulesPath } }

def ofFileText (path text : String) : Except LoadFault Config := do
  let c := relocate path (← ofText ((Files.Location.extension? path).getD "") text)
  match c.validate with
  | .ok () => return c
  | .error f => throw (.invalid f)

def load (t : FileTree) (path : String) : Traced (Except LoadFault Config) := do
  Traced.noteOpened path
  match t.readText path with
  | .error f => pure (.error (.io f))
  | .ok s => pure (ofFileText path s)

def usualNames : List String := [".storeguard.yaml", ".storeguard.yml", ".storeguard.json"]

def usualPaths (home : Option String) : List String :=
  usualNames ++ ((home.map fun h => usualNames.map (Files.Location.join h)).getD [])

def loadFirst (t : FileTree) : List String → Traced (Except LoadFault Config)
  | [] => pure (.ok usual)
  | path :: rest => do
    Traced.noteOpened path
    if t.exists? path then
      Traced.log .info ("Using configuration " ++ path)
      load t path
    else loadFirst t rest

def loadUsual (t : FileTree) (home : Option String) : Traced (Except LoadFault Config) :=
  loadFirst t (usualPaths home)

end StorePolicy.Config

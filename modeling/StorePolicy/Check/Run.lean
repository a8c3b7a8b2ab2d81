import StorePolicy.Check
import StorePolicy.Files.Tree
import StorePolicy.Json.Outline
import StorePolicy.Trace
import StorePolicy.Yaml.Reader

/-!
# Running checks

A check is run against the root of a project and always has a verdict: what is missing, cannot be read
or is malformed makes a probe fail, and is noted in the log. The checks of a composite
are run in order until one settles the verdict.

A guarded probe runs only if its target lies inside the project: if its place, with all links followed,
is that of the root or below it. A target that does not exist is judged by the nearest of its
ancestors that does.
-/
namespace StorePolicy

namespace Check
open Files

/-- Judges by the first path that exists. -/
def nearestInside (t : FileTree) (base : FilePlace) : List String → Traced Bool
  | [] => pure false
  | path :: rest => do
    Traced.noteLocated path
    match t.resolve path with
    | .ok place => pure (base.isPrefixOf place)
    | .error .notFound => nearestInside t base rest
    | .error f =>
      Traced.log .debug ("Cannot resolve " ++ path ++ ": " ++ f.message)
      pure false

def resolvesInside (t : FileTree) (root target : String) : Traced Bool := do
  Traced.noteLocated root
  match t.resolve root with
  | .ok base =>
    let path := Location.join root target
    nearestInside t base (Location.ancestors path path.length)
  | .error f =>
    Traced.log .debug ("Cannot resolve project root " ++ root ++ ": " ++ f.message)
    pure false

def readTarget (t : FileTree) (root target : String) : Traced (Option String) := do
  let path := Location.join root target
  Traced.noteOpened path
  match t.readText path with
  | .ok s => pure (some s)
  | .error f =>
    Traced.log .debug ("Cannot read " ++ path ++ ": " ++ f.message)
    pure none

def malformed (format target cause : String) : Traced Bool := do
  Traced.log .debug ("Malformed " ++ format ++ " in " ++ target ++ ": " ++ cause)
  pure false

end Check

namespace JsonTest

def holds (path : String) (strategies : List Path.Strategy) (j : Json) : JsonTest → Bool
  | .exists => Path.reaches strategies j path
  | .equals value =>
    match Path.first strategies j path with
    | some v => v.same value
    | none => false
  | .matches pattern =>
    match Path.first strategies j path with
    | some v => !v.isNull && pattern.isMatch (Path.plainText v)
    | none => false

end JsonTest

namespace Probe

def run (t : FileTree) (root target : String) : Probe → Traced Bool
  | .presence expected => do
    let path := Files.Location.join root target
    Traced.noteOpened path
    pure (t.exists? path == expected)
  | .json path strategies test => do
    match ← Check.readTarget t root target with
    | none => pure false
    | some s =>
      match Json.parse? s with
      | none => Check.malformed "JSON" target "not well-formed"
      | some j =>
        Traced.logAll (Path.firstLog strategies j path)
        pure (test.holds path strategies j)
  | .yaml path => do
    match ← Check.readTarget t root target with
    | none => pure false
    | some s =>
      match Yaml.parse? s with
      | none => Check.malformed "YAML" target "not well-formed"
      | some v => pure (((Path.walkEntries v path).map fun v => !v.isNull).getD false)
  | .xml path => do
    match ← Check.readTarget t root target with
    | none => pure false
    | some s =>
      match Xml.Document.ofString s with
      | .error f => Check.malformed "XML" target (f.message?.getD "not well-formed")
      | .ok d => pure (d.matchesPath path)
  | .text pattern => do
    match ← Check.readTarget t root target with
    | none => pure false
    | some s => pure (pattern.isMatch s)

end Probe

namespace Logic

def settle (l : Logic) (found : Bool) : Bool :=
  match l with
  | .allOf => !found
  | .anyOf => found
  | .noneOf => !found

end Logic

namespace Check

mutual
def run (t : FileTree) (root : String) : Check → Traced Bool
  | .probe target p => p.run t root target
  | .guarded target p => do
    if ← resolvesInside t root target then p.run t root target
    else
      Traced.log .warn ("Target '" ++ target ++ "' resolves outside " ++ root ++
        "; the check will fail")
      pure false
  | .escaped => pure false
  | .composite logic checks => do
    pure (logic.settle (← runUntil t root logic.decisive checks))

def runUntil (t : FileTree) (root : String) (wanted : Bool) : List Check → Traced Bool
  | [] => pure false
  | c :: rest => do
    if (← run t root c) == wanted then pure true else runUntil t root wanted rest
end

end Check
end StorePolicy

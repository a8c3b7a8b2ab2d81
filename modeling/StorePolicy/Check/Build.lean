import StorePolicy.Check
import StorePolicy.Files.Location
import StorePolicy.Trace

/-!
# Building checks

A condition is built from the top down, and the first fault on the way is reported. Nesting
is limited; a leaf at the top is at depth one. With the sandbox on, leaves are guarded, and
a leaf whose target escapes by its text is replaced by a check that fails.
-/
namespace StorePolicy.Check

structure Settings where
  maxDepth : Nat
  sandbox : Bool
  strategies : List Path.Strategy

namespace Settings

def defaultMaxDepth : Nat := 32

def usual : Settings := ⟨defaultMaxDepth, true, Path.Strategy.usual⟩

/-- A leaf has depth one, so no bound is lower. -/
def withMaxDepth (s : Settings) (maxDepth : Nat) : Settings := { s with maxDepth := max maxDepth 1 }

def withSandbox (s : Settings) (sandbox : Bool) : Settings := { s with sandbox := sandbox }

def withStrategies (s : Settings) (strategies : List Path.Strategy) : Settings :=
  { s with strategies := strategies }

end Settings

def compilePattern (pattern : String) : Except BuildFault Pattern :=
  (Pattern.compile pattern).mapError (.invalidPattern pattern)

def probe? (s : Settings) : Condition → Except BuildFault (Option Probe)
  | .fileExists _ => .ok (some (.presence true))
  | .fileNotExists _ => .ok (some (.presence false))
  | .jsonPathExists _ path => .ok (some (.json path s.strategies .exists))
  | .jsonPathEquals _ path value => .ok (some (.json path s.strategies (.equals value)))
  | .jsonPathMatches _ path pattern =>
    (compilePattern pattern).map fun p => some (.json path s.strategies (.matches p))
  | .yamlPathExists _ path => .ok (some (.yaml path))
  | .xmlPathExists _ path =>
    match Xml.ElementPath.compile path with
    | .ok p => .ok (some (.xml p))
    | .error f => .error (.invalidPath path f)
  | .patternInFile _ pattern => (compilePattern pattern).map fun p => some (.text p)
  | .composite _ _ => .ok none

def buildLeaf (s : Settings) (c : Condition) (target : String) : Traced (Except BuildFault Check) :=
  if s.sandbox && !Files.Location.isContained target then do
    Traced.log .warn ("Target '" ++ target ++ "' of " ++ c.kind ++
      " escapes the project root; the check will fail")
    pure (.ok .escaped)
  else
    match probe? s c with
    | .ok (some p) => pure (.ok (if s.sandbox then .guarded target p else .probe target p))
    | .ok none => pure (.ok .escaped)
    | .error f => pure (.error f)

mutual
def buildAt (s : Settings) (depth : Nat) (c : Condition) : Traced (Except BuildFault Check) :=
  if s.maxDepth < depth then pure (.error (.depthExceeded s.maxDepth))
  else
    match c with
    | .composite logic checks => do
      match ← buildAll s (depth + 1) checks with
      | .ok built => pure (.ok (.composite logic built))
      | .error f => pure (.error f)
    | .fileExists t => buildLeaf s (.fileExists t) t
    | .fileNotExists t => buildLeaf s (.fileNotExists t) t
    | .jsonPathExists t p => buildLeaf s (.jsonPathExists t p) t
    | .jsonPathEquals t p v => buildLeaf s (.jsonPathEquals t p v) t
    | .jsonPathMatches t p r => buildLeaf s (.jsonPathMatches t p r) t
    | .yamlPathExists t p => buildLeaf s (.yamlPathExists t p) t
    | .xmlPathExists t p => buildLeaf s (.xmlPathExists t p) t
    | .patternInFile t r => buildLeaf s (.patternInFile t r) t

def buildAll (s : Settings) (depth : Nat) :
    List Condition → Traced (Except BuildFault (List Check))
  | [] => pure (.ok [])
  | c :: rest => do
    match ← buildAt s depth c with
    | .error f => pure (.error f)
    | .ok check =>
      match ← buildAll s depth rest with
      | .error f => pure (.error f)
      | .ok checks => pure (.ok (check :: checks))
end

def build (s : Settings) (c : Condition) : Traced (Except BuildFault Check) := buildAt s 1 c

end StorePolicy.Check

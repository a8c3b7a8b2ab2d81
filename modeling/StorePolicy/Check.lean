import StorePolicy.Condition
import StorePolicy.Path.Strategy
import StorePolicy.Pattern
import StorePolicy.Xml.Query

/-!
# Checks

A check is a condition made ready to run: patterns and element paths are compiled, and each
leaf has its probe, the question that it asks of its target. A guarded probe first asks
whether the target lies inside the project. A target that escapes by its text alone has no
probe; its check fails.
-/
namespace StorePolicy

inductive JsonTest where
  | exists
  | equals (value : Json)
  | matches (pattern : Pattern)

inductive Probe where
  | presence (expected : Bool)
  | json (path : String) (strategies : List Path.Strategy) (test : JsonTest)
  | yaml (path : String)
  | xml (path : Xml.ElementPath)
  | text (pattern : Pattern)

inductive Check where
  | probe (target : String) (p : Probe)
  | guarded (target : String) (p : Probe)
  | escaped
  | composite (logic : Logic) (checks : List Check)

inductive BuildFault where
  | invalidPattern (pattern : String) (cause : Pattern.Fault)
  | invalidPath (path : String) (cause : Xml.PathFault)
  | depthExceeded (max : Nat)

def BuildFault.message : BuildFault → String
  | .invalidPattern pattern cause => "Invalid regex '" ++ pattern ++ "': " ++ cause.message
  | .invalidPath path cause => "Invalid XPath '" ++ path ++ "': " ++ cause.reason
  | .depthExceeded max => "Composite nesting exceeds the maximum depth of " ++ toString max

end StorePolicy

import StorePolicy.Condition
import StorePolicy.Platform
import StorePolicy.Text.Blank

/-!
# Rules

A rule is a requirement of a store: an id, the platform and severity, what is wrong if it
is broken, and conditions that must all hold. A rule is valid if its id is not blank and
its conditions are not nested too deep.
-/
namespace StorePolicy

structure Rule where
  id : String
  platform : Platform
  title : String
  description : String
  severity : Severity
  category : String
  sourceUrl : Option String
  autoFixable : Bool
  suggestion : Option String
  conditions : List Condition
deriving Inhabited

inductive SchemaFault where
  | emptyId (index : Nat)
  | invalidId (id reason : String)
  | duplicateId (id : String)
  | depthExceeded (id : String) (depth max : Nat)
  | invalid (id message : String)
deriving DecidableEq

def SchemaFault.message : SchemaFault → String
  | .emptyId index => "Rule #" ++ toString index ++ " has an empty id"
  | .invalidId id reason => "Invalid rule id '" ++ id ++ "': " ++ reason
  | .duplicateId id => "Duplicate rule id '" ++ id ++ "'"
  | .depthExceeded id depth max =>
    "Rule '" ++ id ++ "': condition nesting depth " ++ toString depth ++
      " exceeds the maximum of " ++ toString max
  | .invalid id message => "Rule '" ++ id ++ "': " ++ message

namespace Rule

def new (id title : String) : Rule :=
  { id := id, platform := .both, title := title, description := "", severity := .major,
    category := "", sourceUrl := none, autoFixable := false, suggestion := none, conditions := [] }

def withPlatform (r : Rule) (p : Platform) : Rule := { r with platform := p }
def withSeverity (r : Rule) (s : Severity) : Rule := { r with severity := s }
def withDescription (r : Rule) (s : String) : Rule := { r with description := s }
def withCategory (r : Rule) (s : String) : Rule := { r with category := s }
def withSourceUrl (r : Rule) (s : String) : Rule := { r with sourceUrl := some s }
def withSuggestion (r : Rule) (s : String) : Rule := { r with suggestion := some s }
def withAutoFix (r : Rule) : Rule := { r with autoFixable := true }
def withCondition (r : Rule) (c : Condition) : Rule := { r with conditions := r.conditions ++ [c] }

def appliesTo (r : Rule) (p : Platform) : Bool := r.platform.appliesTo p

def depth (r : Rule) : Nat := Condition.deepest r.conditions

def validate (r : Rule) (maxDepth : Nat) : Except SchemaFault Unit :=
  if Text.blank r.id then .error (.invalidId r.id "id must not be empty")
  else if maxDepth < r.depth then .error (.depthExceeded r.id r.depth maxDepth)
  else .ok ()

def same (a b : Rule) : Bool :=
  a.id == b.id && a.platform == b.platform && a.title == b.title &&
    a.description == b.description && a.severity == b.severity && a.category == b.category &&
    a.sourceUrl == b.sourceUrl && a.autoFixable == b.autoFixable &&
    a.suggestion == b.suggestion && Condition.sameList a.conditions b.conditions

theorem validate_eq_ok_iff (r : Rule) (m : Nat) :
    r.validate m = .ok () ↔ Text.blank r.id = false ∧ r.depth ≤ m := by
  unfold validate
  split
  · simp_all
  · split <;> simp_all

end Rule
end StorePolicy

import StorePolicy.Xml.Document
import StorePolicy.Xml.ElementPath

/-!
# Finding elements

A path is followed step by step from a list of places, and after every step each place
is kept once. Positions count among the elements of one parent that have passed the name
test and the predicates before. No step leads from an element to the document.
-/
namespace StorePolicy.Xml

namespace Document

/-- The places below a place, each before those below it; `fuel` bounds the depth. -/
def descendantsIn (d : Document) : Nat → Nat → List Nat
  | 0, _ => []
  | fuel + 1, i => (d.children i).flatMap fun c => c :: descendantsIn d fuel c

def descendants (d : Document) (i : Nat) : List Nat := d.descendantsIn d.nodes.size i

end Document

namespace Predicate

def holds (d : Document) (p : Predicate) (i : Nat) : Bool :=
  let attribute? (name : String) : Option String := (d.node? i).bind (·.attribute? name)
  match p with
  | .hasAttribute name => (attribute? name).isSome
  | .attributeIs name value => attribute? name == some value
  | .hasChild name => (d.children i).any fun c => d.nameAt c == name
  | .childTextIs name value => (d.children i).any fun c => d.nameAt c == name && d.textAt c == value
  | .textIs value => d.textAt i == value
  | .position _ => true
  | .last => true

/-- Keeps the candidates, all of one parent, that pass. -/
def keep (d : Document) (p : Predicate) (candidates : List Nat) : List Nat :=
  match p with
  | .position n => (candidates[n - 1]?).toList
  | .last => candidates.getLast?.toList
  | p => candidates.filter (p.holds d)

def keepAll (d : Document) (ps : List Predicate) (candidates : List Nat) : List Nat :=
  ps.foldl (fun cs p => p.keep d cs) candidates

end Predicate

def groupWith (parent i : Nat) : List (Nat × List Nat) → List (Nat × List Nat)
  | [] => [(parent, [i])]
  | (p, group) :: rest =>
    if p = parent then (p, group ++ [i]) :: rest else (p, group) :: groupWith parent i rest

def groupByParent (d : Document) (places : List Nat) : List (List Nat) :=
  (places.foldl (fun groups i => groupWith ((d.parent? i).getD Document.origin) i groups) []).map (·.2)

def keepFirsts (seen : List Nat) : List Nat → List Nat
  | [] => []
  | i :: rest => if seen.contains i then keepFirsts seen rest else i :: keepFirsts (i :: seen) rest

namespace PathStep

def select (d : Document) : PathStep → Nat → List Nat
  | .self, i => [i]
  | .parent, i => ((d.parent? i).filter (· ≠ Document.origin)).toList
  | .child test ps, i => Predicate.keepAll d ps ((d.children i).filter fun c => test.accepts (d.nameAt c))
  | .descendant test ps, i =>
    (groupByParent d ((d.descendants i).filter fun c => test.accepts (d.nameAt c))).flatMap
      (Predicate.keepAll d ps)

def apply (d : Document) (context : List Nat) (s : PathStep) : List Nat :=
  keepFirsts [] (context.flatMap (s.select d))

end PathStep

namespace Document

def find (d : Document) (path : ElementPath) : List Nat :=
  let start := if path.absolute then [origin] else d.rootPlace?.toList
  (path.steps.foldl (PathStep.apply d) start).filter (· ≠ origin)

def matchesPath (d : Document) (path : ElementPath) : Bool := !(d.find path).isEmpty

end Document
end StorePolicy.Xml

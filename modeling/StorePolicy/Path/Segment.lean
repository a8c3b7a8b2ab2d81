import StorePolicy.Json.Value
import StorePolicy.Text.Blank

/-!
# JSON paths

A JSON path is `$` and a list of segments: `.key`, `['key']`, `[n]` with negative
positions from the end, `.*` and `[*]`, and `..` before any of these for the same
selection at every depth. The `$.` in front may be left out before a key. A text
outside of this form is no JSON path.
-/
namespace StorePolicy.Path

inductive Segment where
  | key (name : String)
  | index (i : Int)
  | all
  | descend (inner : Segment)
deriving DecidableEq

def children : Json → List Json
  | .arr items => items
  | .obj members => members.map (·.2)
  | _ => []

mutual
def subvalues : Json → List Json
  | .arr items => .arr items :: itemSubvalues items
  | .obj members => .obj members :: memberSubvalues members
  | .null => [.null]
  | .bool b => [.bool b]
  | .int i => [.int i]
  | .float d => [.float d]
  | .str s => [.str s]

def itemSubvalues : List Json → List Json
  | [] => []
  | j :: rest => subvalues j ++ itemSubvalues rest

def memberSubvalues : List (String × Json) → List Json
  | [] => []
  | (_, j) :: rest => subvalues j ++ memberSubvalues rest
end

theorem itemSubvalues_eq (items : List Json) : itemSubvalues items = items.flatMap subvalues := by
  induction items with
  | nil => rfl
  | cons j rest ih => rw [itemSubvalues, ih, List.flatMap_cons]

theorem memberSubvalues_eq (members : List (String × Json)) :
    memberSubvalues members = (members.map (·.2)).flatMap subvalues := by
  induction members with
  | nil => rfl
  | cons m rest ih => rw [memberSubvalues, ih, List.map_cons, List.flatMap_cons]

theorem subvalues_eq (j : Json) : subvalues j = j :: (children j).flatMap subvalues := by
  cases j with
  | arr items => rw [subvalues, itemSubvalues_eq, children]
  | obj members => rw [subvalues, memberSubvalues_eq, children]
  | _ => rfl

def pushAll (values stack : List Json) : List Json :=
  values.reverse.foldl (fun stack j => j :: stack) stack

theorem pushAll_eq (values stack : List Json) : pushAll values stack = values ++ stack := by
  rw [pushAll, List.foldl_reverse, List.foldr_cons_eq_append, List.map_id']

/-- What is selected from the values of a stack and from all values below them. The value on top is
taken off, and the values directly below it are put on. -/
def selectBelow (select : Json → List Json) : List Json → List Json
  | [] => []
  | j :: stack => select j ++ selectBelow select (pushAll (children j) stack)
termination_by stack => (stack.flatMap subvalues).length
decreasing_by
  rw [pushAll_eq, List.flatMap_append, List.flatMap_cons, subvalues_eq j]
  simp only [List.length_append, List.length_cons]
  omega

/-- Whatever is on the stack, each value comes before those below it. -/
theorem selectBelow_eq (select : Json → List Json) (stack : List Json) :
    selectBelow select stack = (stack.flatMap subvalues).flatMap select := by
  induction stack using selectBelow.induct with
  | case1 => rw [selectBelow]; rfl
  | case2 j stack ih =>
    rw [selectBelow, ih, pushAll_eq, List.flatMap_cons, subvalues_eq j]
    simp only [List.flatMap_append, List.flatMap_cons, List.cons_append]

def itemAt? (items : List Json) (i : Int) : Option Json :=
  let position := if i < 0 then (items.length : Int) + i else i
  if position < 0 then none else items[position.toNat]?

namespace Segment

def select : Segment → Json → List Json
  | .key name, j => (j.get? name).toList
  | .index i, j => ((j.items?).bind (itemAt? · i)).toList
  | .all, j => children j
  | .descend inner, j => selectBelow inner.select [j]

def selectAll (segments : List Segment) (nodes : List Json) : List Json :=
  segments.foldl (fun nodes s => nodes.flatMap s.select) nodes

theorem select_descend (inner : Segment) (j : Json) :
    (descend inner).select j = (subvalues j).flatMap inner.select := by
  rw [select, selectBelow_eq, List.flatMap_singleton]

end Segment

def position? (cs : List Char) : Option Int :=
  let (negative, digits) := match cs with
    | '-' :: rest => (true, rest)
    | '+' :: rest => (false, rest)
    | _ => (false, cs)
  if digits.isEmpty || !digits.all Char.isDigit then none
  else
    let n : Nat := digits.foldl (fun n d => n * 10 + (d.toNat - 48)) 0
    let i : Int := if negative then -(n : Int) else n
    if -(Nat.pow 2 63 : Int) ≤ i ∧ i < (Nat.pow 2 63 : Int) then some i else none

def endsName (c : Char) : Bool := c = '.' || c = '['

def readName (cs : List Char) : Option (String × List Char) :=
  let name := Text.trim (cs.takeWhile (!endsName ·))
  if name.isEmpty || name.contains ']' || name.contains '$' then none
  else some (String.ofList name, cs.dropWhile (!endsName ·))

def closeBracket (s : Segment) : List Char → Option (Segment × List Char)
  | ']' :: rest => some (s, rest)
  | _ => none

def readBracket (cs : List Char) : Option (Segment × List Char) :=
  let quoted (q : Char) (cs : List Char) : Option (Segment × List Char) :=
    closeBracket (.key (String.ofList (cs.takeWhile (· ≠ q)))) ((cs.dropWhile (· ≠ q)).drop 1)
  match cs with
  | '\'' :: rest => quoted '\'' rest
  | '"' :: rest => quoted '"' rest
  | _ =>
    let inside := Text.trim (cs.takeWhile (· ≠ ']'))
    let rest := cs.dropWhile (· ≠ ']')
    if inside = ['*'] then closeBracket .all rest
    else (position? inside).bind fun i => closeBracket (.index i) rest

def readStep : List Char → Option (Segment × List Char)
  | '*' :: rest => some (.all, rest)
  | cs => (readName cs).map fun (name, rest) => (.key name, rest)

def readSegment : List Char → Option (Segment × List Char)
  | '.' :: '.' :: '[' :: rest => (readBracket rest).map fun (s, rest) => (.descend s, rest)
  | '.' :: '.' :: rest => (readStep rest).map fun (s, rest) => (.descend s, rest)
  | '.' :: rest => readStep rest
  | '[' :: rest => readBracket rest
  | _ => none

def readSegments : Nat → List Char → Option (List Segment)
  | _, [] => some []
  | 0, _ => none
  | fuel + 1, cs =>
    match readSegment cs with
    | none => none
    | some (s, rest) => (readSegments fuel rest).map (s :: ·)

def segmentsOf (cs : List Char) : Option (List Segment) :=
  match cs with
  | [] => none
  | '$' :: rest => readSegments rest.length rest
  | _ =>
    (readName cs).bind fun (name, rest) =>
      (readSegments rest.length rest).map (.key name :: ·)

def segments? (path : String) : Option (List Segment) := segmentsOf (Text.trim path.toList)

def matches? (j : Json) (path : String) : Option (List Json) :=
  (segments? path).map fun ss => Segment.selectAll ss [j]

end StorePolicy.Path

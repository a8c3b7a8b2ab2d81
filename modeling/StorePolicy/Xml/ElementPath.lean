import StorePolicy.Text.Blank
import StorePolicy.Text.Letters

/-!
# Element paths

A path of steps between slashes selects elements of a document: `.` and `..`, a name or
`*` for children, and after `//` for all elements below. Predicates in brackets narrow a
step: by an attribute, a child or the own text, with or without a quoted value, or by
position. A path that begins with a slash starts at the document, any other at its root.
-/
namespace StorePolicy.Xml

inductive NameTest where
  | any
  | name (s : String)
deriving DecidableEq

def NameTest.accepts : NameTest → String → Bool
  | .any, _ => true
  | .name s, t => s == t

inductive Predicate where
  | hasAttribute (name : String)
  | attributeIs (name value : String)
  | hasChild (name : String)
  | childTextIs (name value : String)
  | textIs (value : String)
  | position (n : Nat)
  | last
deriving DecidableEq

inductive PathStep where
  | self
  | parent
  | child (test : NameTest) (predicates : List Predicate)
  | descendant (test : NameTest) (predicates : List Predicate)
deriving DecidableEq

structure ElementPath where
  source : String
  absolute : Bool
  steps : List PathStep
deriving DecidableEq

inductive PathFault where
  | empty
  | emptySteps
  | endsInSlash
  | selectsNothing
  | unbalancedClose
  | unbalancedOpen
  | unterminated
  | predicatesOn (step : String)
  | descendantParent
  | missingName
  | invalidName (name : String)
  | unexpected (text : String)
  | emptyPredicate
  | invalidPosition (text : String)
  | positionZero
  | invalidAttribute (name : String)
  | needsValue
  | unsupported (text : String)
  | notQuoted (text : String)
deriving DecidableEq

namespace PathFault

def reason : PathFault → String
  | .empty => "empty path"
  | .emptySteps => "'///' is not allowed"
  | .endsInSlash => "path cannot end with '/'"
  | .selectsNothing => "path selects nothing"
  | .unbalancedClose => "unbalanced ']'"
  | .unbalancedOpen => "unbalanced '['"
  | .unterminated => "unterminated string literal"
  | .predicatesOn step => "predicates are not supported on '" ++ step ++ "'"
  | .descendantParent => "'//..' is not supported"
  | .missingName => "missing element name"
  | .invalidName name => "invalid element name '" ++ name ++ "'"
  | .unexpected text => "unexpected '" ++ text ++ "'"
  | .emptyPredicate => "empty predicate"
  | .invalidPosition text => "invalid position '" ++ text ++ "'"
  | .positionZero => "positions start at 1"
  | .invalidAttribute name => "invalid attribute name '" ++ name ++ "'"
  | .needsValue => "'[.]' needs a value"
  | .unsupported text => "unsupported predicate '" ++ text ++ "'"
  | .notQuoted text => "expected a quoted value, found '" ++ text ++ "'"

def message (path : String) (f : PathFault) : String :=
  "Invalid element path '" ++ path ++ "': " ++ f.reason

end PathFault

def isQuote (c : Char) : Bool := c = '\'' || c = '"'

def quoteAfter (quote : Option Char) (c : Char) : Option Char :=
  match quote with
  | some q => if c = q then none else some q
  | none => if isQuote c then some c else none

def splitSteps (depth : Nat) (quote : Option Char) (current : List Char) :
    List Char → Except PathFault (List (List Char))
  | [] =>
    if quote.isSome then .error .unterminated
    else if depth ≠ 0 then .error .unbalancedOpen
    else .ok [current.reverse]
  | c :: rest =>
    let next := quoteAfter quote c
    if quote.isSome || isQuote c then splitSteps depth next (c :: current) rest
    else if c = '[' then splitSteps (depth + 1) none (c :: current) rest
    else if c = ']' then
      if depth = 0 then .error .unbalancedClose
      else splitSteps (depth - 1) none (c :: current) rest
    else if c = '/' && depth = 0 then
      (splitSteps depth none [] rest).map (current.reverse :: ·)
    else splitSteps depth none (c :: current) rest

def isPathNameChar (c : Char) : Bool :=
  Text.isAlphanumeric c || ['_', '-', '.', ':', '\x7b', '\x7d'].contains c

def isPathName (cs : List Char) : Bool := cs = ['*'] || cs.all isPathNameChar

def unquote (cs : List Char) : Except PathFault String :=
  match cs with
  | q :: rest =>
    if isQuote q && rest.getLast? = some q then .ok (String.ofList rest.dropLast)
    else .error (.notQuoted (String.ofList cs))
  | [] => .error (.notQuoted "")

def maxPosition : Nat := Nat.pow 2 64 - 1

def readPredicate (body : List Char) : Except PathFault Predicate := do
  let text := String.ofList body
  if body.isEmpty then throw .emptyPredicate
  if body = ['l', 'a', 's', 't', '(', ')'] then return .last
  if body.all Char.isDigit then
    let n : Nat := body.foldl (fun n c => n * 10 + (c.toNat - 48)) 0
    if maxPosition < n then throw (.invalidPosition text)
    if n = 0 then throw .positionZero
    return .position n
  let left := body.takeWhile (· ≠ '=')
  let value : Option String ←
    match body.dropWhile (· ≠ '=') with
    | _ :: right => (unquote (Text.trim right)).map some
    | [] => pure none
  let left := if value.isSome then Text.trim left else left
  match left with
  | '@' :: name =>
    if name.isEmpty || !isPathName name then throw (.invalidAttribute (String.ofList name))
    match value with
    | some v => return .attributeIs (String.ofList name) v
    | none => return .hasAttribute (String.ofList name)
  | ['.'] =>
    match value with
    | some v => return .textIs v
    | none => throw .needsValue
  | name =>
    if !isPathName name || name = ['*'] then throw (.unsupported text)
    match value with
    | some v => return .childTextIs (String.ofList name) v
    | none => return .hasChild (String.ofList name)

def takeBracket (quote : Option Char) (acc : List Char) : List Char → Option (List Char × List Char)
  | [] => none
  | c :: rest =>
    if quote.isNone && c = ']' then some (acc.reverse, rest)
    else takeBracket (quoteAfter quote c) (c :: acc) rest

def readPredicates : Nat → List Char → Except PathFault (List Predicate)
  | _, [] => .ok []
  | 0, _ => .error .unbalancedOpen
  | fuel + 1, '[' :: rest =>
    match takeBracket none [] rest with
    | none => .error .unbalancedOpen
    | some (body, rest) => do
      let p ← readPredicate (Text.trim body)
      return p :: (← readPredicates fuel (Text.trimLeft rest))
  | _ + 1, cs => .error (.unexpected (String.ofList cs))

def readPathStep (part : List Char) (below : Bool) : Except PathFault PathStep := do
  let rest := part.dropWhile (· ≠ '[')
  let name := if rest.isEmpty then part else Text.trim (part.takeWhile (· ≠ '['))
  let predicates ← readPredicates rest.length rest
  if name = ['.'] || name = ['.', '.'] then
    if !predicates.isEmpty then throw (.predicatesOn (String.ofList name))
    if name = ['.'] then return (if below then .descendant .any [] else .self)
    if below then throw .descendantParent
    return .parent
  if name.isEmpty then throw .missingName
  if !isPathName name then throw (.invalidName (String.ofList name))
  let test : NameTest := if name = ['*'] then .any else .name (String.ofList name)
  return (if below then .descendant test predicates else .child test predicates)

/-- The steps of the parts between slashes; an empty part is the inside of `//`. -/
def readSteps (below : Bool) : List (List Char) → Except PathFault (List PathStep)
  | [] => if below then .error .endsInSlash else .ok []
  | part :: rest =>
    let part := Text.trim part
    if part.isEmpty then
      if below then .error .emptySteps
      else if rest.isEmpty then .error .endsInSlash
      else readSteps true rest
    else do
      let step ← readPathStep part below
      return step :: (← readSteps false rest)

namespace ElementPath

def compile (path : String) : Except PathFault ElementPath := do
  let cs := Text.trim path.toList
  if cs.isEmpty then throw .empty
  let absolute := cs.head? = some '/'
  let parts ← splitSteps 0 none [] cs
  let steps ← readSteps false (if absolute then parts.drop 1 else parts)
  if steps.isEmpty then throw .selectsNothing
  return ⟨path, absolute, steps⟩

end ElementPath
end StorePolicy.Xml

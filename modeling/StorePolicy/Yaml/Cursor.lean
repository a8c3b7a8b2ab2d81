/-!
# Places in a text of lines

A cursor is the rest of a text together with its place: the characters before it, its
line and its column. Five characters end a line, and carriage return with line feed
counts as one line end.
-/
namespace StorePolicy.Yaml

structure Cursor where
  rest : List Char
  offset : Nat
  line : Nat
  column : Nat

def isBreak (c : Char) : Bool :=
  c == '\n' || c == '\r' || c.toNat == 0x85 || c.toNat == 0x2028 || c.toNat == 0x2029

def isGap (c : Char) : Bool := c == ' ' || c == '\t'

def isNameChar (c : Char) : Bool := c.isAlphanum || c == '_' || c == '-'

namespace Cursor

def start (cs : List Char) : Cursor := ⟨cs, 0, 0, 0⟩

def at? (c : Cursor) (n : Nat) : Option Char := c.rest[n]?

def is (c : Cursor) (n : Nat) (ch : Char) : Bool := c.rest[n]? == some ch

def oneOf (c : Cursor) (n : Nat) (chars : List Char) : Bool :=
  match c.at? n with
  | some ch => chars.contains ch
  | none => false

def endsAt (c : Cursor) (n : Nat) : Bool :=
  match c.at? n with
  | some ch => isGap ch || isBreak ch
  | none => true

def onGap (c : Cursor) : Bool := (c.rest.head?.map isGap).getD false

def onBreak (c : Cursor) : Bool := (c.rest.head?.map isBreak).getD false

def onLineEnd (c : Cursor) : Bool := c.rest.isEmpty || c.onBreak

def skip (c : Cursor) (n : Nat) : Cursor :=
  ⟨c.rest.drop n, c.offset + n, c.line, c.column + n⟩

def skipBreak (c : Cursor) : Cursor :=
  match c.rest with
  | '\r' :: '\n' :: rest => ⟨rest, c.offset + 2, c.line + 1, 0⟩
  | ch :: rest => if isBreak ch then ⟨rest, c.offset + 1, c.line + 1, 0⟩ else c
  | [] => c

/-- The text that a line end stands for: a line feed, except for the separators. -/
def breakText (c : Cursor) : List Char :=
  match c.rest with
  | [] => []
  | ch :: _ => if ch.toNat == 0x2028 || ch.toNat == 0x2029 then [ch] else if isBreak ch then ['\n'] else []

def takeRun (c : Cursor) (p : Char → Bool) : List Char × Cursor :=
  let run := c.rest.takeWhile fun ch => p ch && !isBreak ch
  (run, c.skip run.length)

def skipRun (c : Cursor) (p : Char → Bool) : Cursor := (c.takeRun p).2

def skipGaps (c : Cursor) : Cursor := c.skipRun isGap

def skipComment (c : Cursor) : Cursor :=
  if c.is 0 '#' then c.skipRun fun _ => true else c

def atDocumentMark (c : Cursor) : Bool :=
  c.column == 0 && c.endsAt 3 &&
    match c.rest with
    | '-' :: '-' :: '-' :: _ => true
    | '.' :: '.' :: '.' :: _ => true
    | _ => false

end Cursor
end StorePolicy.Yaml

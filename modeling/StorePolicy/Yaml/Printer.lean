import StorePolicy.Decimal.Shortest
import StorePolicy.Yaml.ScalarStyle

/-!
# YAML text

A value as a block of lines. Entries and items stand on lines of their own; the items of a
sequence under a key stand as far to the left as the key, and all else two columns further
in. Empty collections are written in brackets. A key that is a collection, has several
lines or is long is written behind a question mark.
-/
namespace StorePolicy.Yaml
namespace Block

def floatWord (d : Double) : String :=
  if d.isNaN then ".nan"
  else if !d.isFinite then (if d.negative then "-.inf" else ".inf")
  else Decimal.text ⟨false⟩ d

def spaces (n : Nat) : String := String.ofList (List.replicate n ' ')

def hexUpper (width n : Nat) : List Char :=
  let ds := (Nat.toDigits 16 n).map Char.toUpper
  List.replicate (width - ds.length) '0' ++ ds

def escaped (c : Char) : List Char :=
  let n := c.toNat
  match [(0, '0'), (7, 'a'), (8, 'b'), (9, 't'), (10, 'n'), (11, 'v'), (12, 'f'), (13, 'r'), (27, 'e'),
      (34, '"'), (92, '\\'), (0x85, 'N'), (0x2028, 'L'), (0x2029, 'P')].lookup n with
  | some e => ['\\', e]
  | none =>
    if Writing.isPrintable c then [c]
    else if n ≤ 0xFF then '\\' :: 'x' :: hexUpper 2 n
    else if n ≤ 0xFFFF then '\\' :: 'u' :: hexUpper 4 n
    else '\\' :: 'U' :: hexUpper 8 n

def doubleQuoted (cs : List Char) : String := String.ofList ('"' :: cs.flatMap escaped ++ ['"'])

def indentBreaks (indent : Nat) : List Char → List Char
  | [] => []
  | c :: rest =>
    if Writing.isBreak c && !((rest.head?.map Writing.isBreak).getD true) then
      c :: List.replicate indent ' ' ++ indentBreaks indent rest
    else c :: indentBreaks indent rest

def singleQuoted (indent : Nat) (cs : List Char) : String :=
  let doubled := cs.flatMap fun c => if c = '\'' then ['\'', '\''] else [c]
  String.ofList ('\'' :: indentBreaks indent doubled ++ ['\''])

def splitLines : List Char → List (List Char)
  | [] => [[]]
  | c :: rest =>
    if c = '\n' then [] :: splitLines rest
    else
      match splitLines rest with
      | [] => [[c]]
      | line :: lines => (c :: line) :: lines

def header (cs : List Char) : String :=
  let blankFirst := (cs.head?.map fun c => Writing.isSpace c || Writing.isBreak c).getD false
  let keep := match cs.reverse with
    | [] => "-"
    | c :: rest =>
      if !Writing.isBreak c then "-"
      else if (rest.head?.map Writing.isBreak).getD true then "+"
      else ""
  "|" ++ (if blankFirst then "2" else "") ++ keep

def blockLines (indent : Nat) (cs : List Char) : List String :=
  let lines := splitLines cs
  let lines := if cs.getLast? = some '\n' then lines.dropLast else lines
  header cs :: lines.map fun line =>
    if line.isEmpty then "" else spaces indent ++ String.ofList (indentBreaks indent line)

def textLines (indent : Nat) (s : String) : List String :=
  let cs := s.toList
  match Writing.ofText s with
  | .plain => [s]
  | .single => [singleQuoted indent cs]
  | .double => [doubleQuoted cs]
  | .literal => blockLines indent cs

def isTagChar (c : Char) : Bool :=
  c.isAlphanum || ['-', '_', ';', '/', '?', ':', '@', '&', '=', '+', '$', ',', '.', '~', '*', '\'', '(', ')',
    '[', ']', '!'].contains c

def tagText (tag : String) : String :=
  String.ofList ('!' :: tag.toList.flatMap fun c =>
    if isTagChar c then [c]
    else (String.singleton c).toUTF8.toList.flatMap fun b => '%' :: hexUpper 2 b.toNat)

def prepend (s : String) : List String → List String
  | [] => [s]
  | line :: rest => (s ++ line) :: rest

def maxKeyBytes : Nat := 128

/-- The bytes of a key that count for its length; none if it cannot stand before a colon. -/
def keyBytes? : Value → Option Nat
  | .null => some 4
  | .bool b => some (if b then 4 else 5)
  | .int i => some (toString i).utf8ByteSize
  | .float d => some (floatWord d).utf8ByteSize
  | .str s => if s.toList.any Writing.isBreak then none else some s.utf8ByteSize
  | .seq [] => some 0
  | .map [] => some 0
  | .seq _ => none
  | .map _ => none
  | .tagged t v => (keyBytes? v).map (· + t.utf8ByteSize + 1)

def isSimpleKey (k : Value) : Bool := match keyBytes? k with
  | some n => n ≤ maxKeyBytes
  | none => false

/-- Where a value is written: on the line that an item or an entry has begun, or behind a tag
or a key, where a collection goes to the next line. -/
inductive Spot where
  | item
  | entry
  | belowTag
  | belowKey
deriving DecidableEq

namespace Spot

def isBelow (s : Spot) : Bool := s = .belowTag || s = .belowKey

def afterTag : Spot → Spot
  | .item => .belowTag
  | .entry => .belowKey
  | s => s

def gap (s : Spot) : String := if s.isBelow then " " else ""

def itemColumn (s : Spot) (column : Nat) : Nat := if s = .belowKey then column - 2 else column

def place (s : Spot) (column : Nat) (body : List String) : List String :=
  if s.isBelow then "" :: prepend (spaces column) body else body

end Spot

mutual
/-- The lines of a value that stands `column` columns in, the first of which is put behind
what is on its line already. -/
def lines (spot : Spot) (column : Nat) : Value → List String
  | .null => [spot.gap ++ "null"]
  | .bool b => [spot.gap ++ (if b then "true" else "false")]
  | .int i => [spot.gap ++ toString i]
  | .float d => [spot.gap ++ floatWord d]
  | .str s => prepend spot.gap (textLines column s)
  | .seq items =>
    if items.isEmpty then [spot.gap ++ "[]"]
    else spot.place (spot.itemColumn column) (itemLines (spot.itemColumn column) items)
  | .map entries =>
    if entries.isEmpty then [spot.gap ++ "\x7b\x7d"] else spot.place column (entryLines column entries)
  | .tagged t v => prepend (spot.gap ++ tagText t) (lines spot.afterTag column v)

def itemLines (column : Nat) : List Value → List String
  | [] => []
  | v :: rest =>
    prepend "- " (lines .item (column + 2) v) ++
      (if rest.isEmpty then [] else prepend (spaces column) (itemLines column rest))

def entryLines (column : Nat) : List (Value × Value) → List String
  | [] => []
  | (k, v) :: rest =>
    let key := lines .entry (column + 2) k
    let pair :=
      if isSimpleKey k then prepend (String.join key ++ ":") (lines .belowKey (column + 2) v)
      else prepend "? " key ++ prepend (spaces column ++ ": ") (lines .entry (column + 2) v)
    pair ++ (if rest.isEmpty then [] else prepend (spaces column) (entryLines column rest))
end

end Block

def print (v : Value) : String :=
  let column := match v.untagged with
    | .str _ => 2
    | _ => 0
  String.join ((Block.lines .item column v).map (· ++ "\n"))

end StorePolicy.Yaml

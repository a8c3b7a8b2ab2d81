import StorePolicy.Yaml.Token.Scalar
import StorePolicy.Yaml.Token.Tag

/-!
# Tokens of a text

The lexer holds the open indentations and, for every level of brackets, the place where
a key may have begun. A `:` that follows such a place puts the mark of a key there, and
the start of a block mapping before it if the key stands further in than the block
around it. A key must stand on one line and within 1024 characters.
-/
namespace StorePolicy.Yaml

/-- A place that turns out to be a key if a `:` follows. -/
structure KeyPlace where
  possible : Bool
  required : Bool
  index : Nat
  offset : Nat
  line : Nat
  column : Nat

def KeyPlace.unset : KeyPlace := ⟨false, false, 0, 0, 0, 0⟩

structure Lexer where
  cursor : Cursor
  tokens : Array Token
  indent : Int
  outer : List Int
  keyAllowed : Bool
  place : KeyPlace
  places : List KeyPlace

namespace Lexer

def maxKeyLength : Nat := 1024

def start (cs : List Char) : Lexer :=
  { cursor := Cursor.start cs, tokens := #[], indent := -1, outer := [], keyAllowed := true,
    place := KeyPlace.unset, places := [] }

def inFlow (l : Lexer) : Bool := !l.places.isEmpty

def push (l : Lexer) (t : Token) : Lexer := { l with tokens := l.tokens.push t }

def mark (l : Lexer) (n : Nat) (t : Token) : Lexer :=
  { l with cursor := l.cursor.skip n, tokens := l.tokens.push t }

def insertAt (l : Lexer) (i : Nat) (t : Token) : Lexer :=
  { l with tokens := l.tokens.insertIdxIfInBounds i t }

def allowKey (l : Lexer) (b : Bool) : Lexer := { l with keyAllowed := b }

/-- Opens a block collection at `column`, its start token at `index`, if it stands further
in than the present block. -/
def openBlock (l : Lexer) (column : Nat) (index : Nat) (t : Token) : Lexer :=
  if !l.inFlow && l.indent < column then
    { (l.insertAt index t) with indent := column, outer := l.indent :: l.outer }
  else l

def closeBlocks (l : Lexer) (column : Int) : Lexer :=
  if l.inFlow then l
  else
    let open_ := l.indent :: l.outer
    let closed := (open_.takeWhile (column < ·)).length
    let left := open_.drop closed
    { l with
      tokens := l.tokens ++ Array.replicate closed Token.blockEnd
      indent := left.head?.getD (-1)
      outer := left.drop 1 }

def dropPlace (l : Lexer) : Option Lexer :=
  if l.place.possible && l.place.required then none
  else some { l with place := { l.place with possible := false } }

def notePlace (l : Lexer) : Option Lexer :=
  if l.keyAllowed then do
    let l' ← l.dropPlace
    let c := l.cursor
    return { l' with
      place := ⟨true, !l.inFlow && l.indent = c.column, l.tokens.size, c.offset, c.line, c.column⟩ }
  else some l

def staleAt (c : Cursor) (p : KeyPlace) : Bool :=
  p.possible && (p.line < c.line || p.offset + maxKeyLength < c.offset)

def dropStale (l : Lexer) : Option Lexer :=
  if (l.place :: l.places).any fun p => staleAt l.cursor p && p.required then none
  else
    let fresh (p : KeyPlace) : KeyPlace :=
      if staleAt l.cursor p then { p with possible := false } else p
    some { l with place := fresh l.place, places := l.places.map fresh }

/-- Passes blanks, comments and line ends. A line end outside of brackets allows a key
again, and tabs may not indent one. -/
def skipSpace : Nat → Lexer → Lexer
  | 0, l => l
  | fuel + 1, l =>
    let c := l.cursor
    let c := if c.offset = 0 && ((c.at? 0).map (·.toNat == 0xFEFF)).getD false then c.skip 1 else c
    let c := c.skipRun fun ch => ch == ' ' || ((l.inFlow || !l.keyAllowed) && ch == '\t')
    let c := c.skipComment
    if c.onBreak then
      skipSpace fuel { l with cursor := c.skipBreak, keyAllowed := l.keyAllowed || !l.inFlow }
    else { l with cursor := c }

def readStreamEnd (l : Lexer) : Option Lexer := do
  let l ← (l.closeBlocks (-1)).dropPlace
  return (l.allowKey false).push .streamEnd

def readDirectiveLine (l : Lexer) : Option Lexer := do
  let l ← (l.closeBlocks (-1)).dropPlace
  let (t, c) ← readDirective l.cursor
  return ({ l with cursor := c }.allowKey false).push t

def readDocumentMark (l : Lexer) : Option Lexer := do
  let t := if l.cursor.is 0 '-' then Token.documentStart else .documentEnd
  let l ← (l.closeBlocks (-1)).dropPlace
  return (l.allowKey false).mark 3 t

def readFlowStart (l : Lexer) (t : Token) : Option Lexer := do
  let l ← l.notePlace
  return ({ l with place := KeyPlace.unset, places := l.place :: l.places }.allowKey true).mark 1 t

def readFlowEnd (l : Lexer) (t : Token) : Option Lexer := do
  let l ← l.dropPlace
  let l := match l.places with
    | p :: rest => { l with place := p, places := rest }
    | [] => l
  return (l.allowKey false).mark 1 t

def readFlowEntry (l : Lexer) : Option Lexer := do
  let l ← l.dropPlace
  return (l.allowKey true).mark 1 .flowEntry

def openHere (l : Lexer) (t : Token) : Option Lexer :=
  if l.inFlow then some l
  else if l.keyAllowed then some (l.openBlock l.cursor.column l.tokens.size t)
  else none

def readBlockEntry (l : Lexer) : Option Lexer := do
  let l ← (← l.openHere .blockSequence).dropPlace
  return (l.allowKey true).mark 1 .blockEntry

def readKey (l : Lexer) : Option Lexer := do
  let l ← (← l.openHere .blockMapping).dropPlace
  return (l.allowKey !l.inFlow).mark 1 .key

def readValue (l : Lexer) : Option Lexer := do
  let p := l.place
  if p.possible then
    let l := (l.insertAt p.index .key).openBlock p.column p.index .blockMapping
    return ({ l with place := { p with possible := false } }.allowKey false).mark 1 .value
  else
    let l ← l.openHere .blockMapping
    return (l.allowKey !l.inFlow).mark 1 .value

def readAnchor (l : Lexer) (make : String → Token) : Option Lexer := do
  let l ← l.notePlace
  let (name, c) ← readAnchorName l.cursor
  return ({ l with cursor := c }.allowKey false).push (make name)

def readTagToken (l : Lexer) : Option Lexer := do
  let l ← l.notePlace
  let (t, c) ← readTag l.inFlow l.cursor
  return ({ l with cursor := c }.allowKey false).push t

def readBlockScalar (l : Lexer) (literal : Bool) : Option Lexer := do
  let l ← l.dropPlace
  let (text, c) ← readBlock literal l.indent l.cursor
  let style := if literal then ScalarStyle.literal else .folded
  return ({ l with cursor := c }.allowKey true).push (.scalar style (String.ofList text))

def readQuotedScalar (l : Lexer) (single : Bool) : Option Lexer := do
  let l ← l.notePlace
  let (text, c) ← readQuoted single l.cursor
  let style := if single then ScalarStyle.single else .double
  return ({ l with cursor := c }.allowKey false).push (.scalar style (String.ofList text))

def readPlainScalar (l : Lexer) : Option Lexer := do
  let l ← l.notePlace
  let (text, c, ended) ← readPlain l.inFlow (l.indent + 1) l.cursor
  return ({ l with cursor := c }.allowKey ended).push (.scalar .plain (String.ofList text))

def isIndicator (c : Char) : Bool :=
  ['-', '?', ':', ',', '[', ']', '\x7b', '\x7d', '#', '&', '*', '!', '|', '>', '\'', '"', '%', '@',
    '\x60'].contains c

def startsPlain (l : Lexer) (ch : Char) : Bool :=
  let follows := ((l.cursor.at? 1).map isGap).getD false
  !(isGap ch || isBreak ch || isIndicator ch) || (ch == '-' && !follows) ||
    (!l.inFlow && (ch == '?' || ch == ':') && !l.cursor.endsAt 1)

/-- Reads one token, with the tokens of block structure before it; no text is left after
the last one. -/
def next (l : Lexer) : Option (Lexer × Bool) := do
  let l := l.skipSpace (l.cursor.rest.length + 1)
  let l ← l.dropStale
  let l := l.closeBlocks l.cursor.column
  let c := l.cursor
  match c.rest with
  | [] => return (← l.readStreamEnd, false)
  | ch :: _ =>
    let alone := c.endsAt 1
    let l ←
      if c.column = 0 && ch == '%' then l.readDirectiveLine
      else if c.atDocumentMark then l.readDocumentMark
      else if ch == '[' then l.readFlowStart .flowSequence
      else if ch == '\x7b' then l.readFlowStart .flowMapping
      else if ch == ']' then l.readFlowEnd .flowSequenceEnd
      else if ch == '\x7d' then l.readFlowEnd .flowMappingEnd
      else if ch == ',' then l.readFlowEntry
      else if ch == '-' && alone then l.readBlockEntry
      else if ch == '?' && (l.inFlow || alone) then l.readKey
      else if ch == ':' && (l.inFlow || alone) then l.readValue
      else if ch == '*' then l.readAnchor .alias
      else if ch == '&' then l.readAnchor .anchor
      else if ch == '!' then l.readTagToken
      else if ch == '|' && !l.inFlow then l.readBlockScalar true
      else if ch == '>' && !l.inFlow then l.readBlockScalar false
      else if ch == '\'' then l.readQuotedScalar true
      else if ch == '"' then l.readQuotedScalar false
      else if l.startsPlain ch then l.readPlainScalar
      else none
    return (l, true)

/-- The tokens that are settled, when no further one can be read. A place where a key may
still begin holds back the tokens from it on. -/
def settled (l : Lexer) : List Token :=
  let held := (l.place :: l.places).filter fun p => p.possible && (p.required || !staleAt l.cursor p)
  l.tokens.toList.take ((held.map (·.index)).foldl min l.tokens.size)

def run : Nat → Lexer → List Token
  | 0, l => l.settled ++ [.broken]
  | fuel + 1, l =>
    match l.next with
    | none => l.settled ++ [.broken]
    | some (l, true) => run fuel l
    | some (l, false) => l.tokens.toList

end Lexer

def isPrintable (c : Char) : Bool :=
  let n := c.toNat
  n == 9 || n == 10 || n == 13 || (0x20 ≤ n && n ≤ 0x7E) || n == 0x85 || (0xA0 ≤ n && n ≤ 0xD7FF) ||
    (0xE000 ≤ n && n ≤ 0xFFFD) || 0x10000 ≤ n

def tokensOf (s : String) : List Token :=
  let cs := s.toList
  if cs.all isPrintable then Lexer.run (cs.length + 2) (Lexer.start cs) else [.broken]

end StorePolicy.Yaml

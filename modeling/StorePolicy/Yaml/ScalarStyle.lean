import StorePolicy.Yaml.Scalar

/-!
# How texts are written in YAML

A text is written plain if it reads back as a text and holds nothing that means more than
itself, between single quotes if it would read back as something else, as a block if it has
several lines, and between double quotes if there are characters that must be escaped.
-/
namespace StorePolicy.Yaml

inductive Writing where
  | plain
  | single
  | double
  | literal
deriving DecidableEq

namespace Writing

def isBreak (c : Char) : Bool :=
  c = '\n' || c = '\r' || c.toNat = 0x85 || c.toNat = 0x2028 || c.toNat = 0x2029

def isPrintable (c : Char) : Bool :=
  let n := c.toNat
  n = 0x0A || (0x20 ≤ n && n ≤ 0x7E) || (0xA0 ≤ n && n ≤ 0xFFFD && n ≠ 0xFEFF)

def isGap (c : Char) : Bool := c = ' ' || c = '\t' || c.toNat = 0 || isBreak c

def gapNext (rest : List Char) : Bool := (rest.head?.map isGap).getD true

def isLeadingMark (c : Char) : Bool :=
  ['#', ',', '[', ']', '\x7b', '\x7d', '&', '*', '!', '|', '>', '\'', '"', '%', '@', '\x60'].contains c

def marksStart : List Char → Bool
  | [] => false
  | c :: rest => isLeadingMark c || (['?', ':', '-'].contains c && gapNext rest)

/-- A colon before a gap or a number sign after one, from the second character on. -/
def marksInside (gapBefore : Bool) : List Char → Bool
  | [] => false
  | c :: rest =>
    (c = ':' && gapNext rest) || (c = '#' && gapBefore) || marksInside (isGap c) rest

def marksDocument (cs : List Char) : Bool :=
  ['-', '-', '-'].isPrefixOf cs || ['.', '.', '.'].isPrefixOf cs

def hasMarks (cs : List Char) : Bool :=
  marksDocument cs || marksStart cs ||
    match cs with
    | [] => false
    | c :: rest => marksInside (isGap c) rest

def hasPair (p q : Char → Bool) : List Char → Bool
  | a :: b :: rest => (p a && q b) || hasPair p q (b :: rest)
  | _ => false

def isSpace (c : Char) : Bool := c = ' '

/-- Some character must be escaped, or the spaces before an end of line would be lost. -/
def needsEscapes (cs : List Char) : Bool :=
  cs.any (fun c => !isPrintable c) || hasPair isSpace isBreak cs

def atEnds (p : Char → Bool) (cs : List Char) : Bool :=
  (cs.head?.map p).getD false || (cs.getLast?.map p).getD false

def plainAllowed (cs : List Char) : Bool :=
  !hasMarks cs && !needsEscapes cs && !cs.any isBreak && !atEnds isSpace cs

def singleAllowed (cs : List Char) : Bool := !needsEscapes cs && !hasPair isBreak isSpace cs

def blockAllowed (cs : List Char) : Bool :=
  !cs.isEmpty && !needsEscapes cs && !((cs.getLast?.map isSpace).getD false)

def readsAsText (s : String) : Bool :=
  match plainValue? s with
  | some (.str _) => !paddedDigits s.toList
  | _ => false

def ofText (s : String) : Writing :=
  let cs := s.toList
  if cs.contains '\n' then if blockAllowed cs then .literal else .double
  else if readsAsText s && plainAllowed cs then .plain
  else if singleAllowed cs then .single
  else .double

end Writing
end StorePolicy.Yaml

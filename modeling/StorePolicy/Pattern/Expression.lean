import StorePolicy.Pattern.CharSet
import StorePolicy.Pattern.Property
import StorePolicy.Pattern.Tree

/-!
# Regular expressions

The tree of a pattern with its flags applied: sets of characters, assertions, sequences,
alternatives and repetitions. A part without Unicode must not match pieces of characters, so
its sets hold basic characters only. What a set of characters under the flag for case holds is
closed under case before it is negated.
-/
namespace StorePolicy.Pattern

structure Mode where
  ignoreCase : Bool
  multiLine : Bool
  dotAll : Bool
  unicode : Bool
  crlf : Bool
deriving DecidableEq

namespace Mode

def usual : Mode := ⟨false, false, false, true, false⟩

def set (m : Mode) (item : FlagItem) : Mode :=
  match item.flag with
  | .ignoreCase => { m with ignoreCase := item.on }
  | .multiLine => { m with multiLine := item.on }
  | .dotAll => { m with dotAll := item.on }
  | .unicode => { m with unicode := item.on }
  | .crlf => { m with crlf := item.on }
  | .swapGreed => m
  | .verbose => m

def apply (m : Mode) (items : List FlagItem) : Mode := items.foldl set m

def top (m : Mode) : Nat := if m.unicode then unicodeTop else byteTop

def fold (m : Mode) (s : CharSet) : CharSet :=
  if !m.ignoreCase then s else if m.unicode then s.closeCase else s.closeBasicCase

def checked (m : Mode) (s : CharSet) : Option CharSet :=
  if m.unicode || s.isBasic then some s else none

def negate (m : Mode) (negated : Bool) (s : CharSet) : CharSet :=
  if negated then s.complement m.top else s

end Mode

inductive Look where
  | textStart
  | textEnd
  | lineStart
  | lineEnd
  | lineStartCrlf
  | lineEndCrlf
  | word (kind : Assertion) (unicode : Bool)
deriving DecidableEq

namespace Look

def isWord (unicode : Bool) : Option Char → Bool
  | none => false
  | some c => if unicode then Text.isWordChar c else c.isAlphanum || c = '_'

def holds (before after : Option Char) : Look → Bool
  | .textStart => before.isNone
  | .textEnd => after.isNone
  | .lineStart => before.isNone || before = some '\n'
  | .lineEnd => after.isNone || after = some '\n'
  | .lineStartCrlf =>
    before.isNone || before = some '\n' || (before = some '\r' && after ≠ some '\n')
  | .lineEndCrlf =>
    after.isNone || after = some '\r' || (after = some '\n' && before ≠ some '\r')
  | .word kind unicode =>
    let b := isWord unicode before
    let a := isWord unicode after
    match kind with
    | .wordBoundary => b != a
    | .notWordBoundary => b == a
    | .wordStart => !b && a
    | .wordEnd => b && !a
    | .wordStartHalf => !b
    | .wordEndHalf => !a
    | _ => false

def ofAssertion (m : Mode) : Assertion → Look
  | .textStart => .textStart
  | .textEnd => .textEnd
  | .lineStart => if m.multiLine then if m.crlf then .lineStartCrlf else .lineStart else .textStart
  | .lineEnd => if m.multiLine then if m.crlf then .lineEndCrlf else .lineEnd else .textEnd
  | kind => .word kind m.unicode

end Look

/-- A regular expression. A group differs from its body in the room it takes only. -/
inductive Expression where
  | empty
  | chars (set : CharSet)
  | look (kind : Look)
  | seq (first second : Expression)
  | alt (left right : Expression)
  | group (body : Expression)
  | repetition (body : Expression) (least : Nat) (most : Option Nat)
deriving Inhabited

namespace ShortClass

def set (m : Mode) : ShortClass → CharSet
  | .digit => if m.unicode then digitSet else basicDigits
  | .space => if m.unicode then spaceSet else basicSpaces
  | .word => if m.unicode then wordSet else basicWord

end ShortClass

def namedSet (name : String) : CharSet :=
  match name with
  | "alnum" => [(48, 57), (65, 90), (97, 122)]
  | "alpha" => [(65, 90), (97, 122)]
  | "ascii" => [(0, 127)]
  | "blank" => [(9, 9), (32, 32)]
  | "cntrl" => [(0, 31), (127, 127)]
  | "digit" => basicDigits
  | "graph" => [(33, 126)]
  | "lower" => [(97, 122)]
  | "print" => [(32, 126)]
  | "punct" => [(33, 47), (58, 64), (91, 96), (123, 126)]
  | "space" => basicSpaces
  | "upper" => [(65, 90)]
  | "word" => basicWord
  | "xdigit" => [(48, 57), (65, 70), (97, 102)]
  | _ => []

namespace Literal

def member? (m : Mode) (l : Literal) : Option Nat :=
  if m.unicode || l.char.toNat < 128 then some l.char.toNat else none

end Literal

def propertySet? (m : Mode) (name : String) (negated : Bool) : Option CharSet :=
  if m.unicode then (propertyRanges? name).map fun s => m.negate negated (m.fold s) else none

mutual
def ClassTree.set? (m : Mode) : ClassTree → Option CharSet
  | .literal l => (l.member? m).map CharSet.single
  | .range a b =>
    match a.member? m, b.member? m with
    | some a, some b => some [(a, b)]
    | _, _ => none
  | .short kind negated => m.checked (m.negate negated (kind.set m))
  | .named name negated => m.checked (m.negate negated (m.fold (namedSet name)))
  | .property name negated => propertySet? m name negated
  | .union items => ClassTree.union? m items
  | .operation op left right =>
    match left.set? m, right.set? m with
    | some l, some r =>
      let l := m.fold l
      let r := m.fold r
      match op with
      | .intersection => some (l.intersection m.top r)
      | .difference => some (l.difference m.top r)
      | .symmetric => some (l.symmetric m.top r)
    | _, _ => none
  | .brackets negated body =>
    (body.set? m).bind fun s => m.checked (m.negate negated (m.fold s))

def ClassTree.union? (m : Mode) : List ClassTree → Option CharSet
  | [] => some []
  | t :: rest =>
    match t.set? m, ClassTree.union? m rest with
    | some s, some u => some (s.union u)
    | _, _ => none
end

namespace Literal

def expression? (m : Mode) (l : Literal) : Option Expression :=
  let n := l.char.toNat
  if m.unicode || n < 128 then some (.chars (m.fold (.single n)))
  else if l.byte then none
  else some (.chars (.single n))

end Literal

def dotSet? (m : Mode) : Option CharSet :=
  if !m.unicode then none
  else if m.dotAll then some [(0, unicodeTop)]
  else if m.crlf then some (CharSet.complement unicodeTop [(10, 10), (13, 13)])
  else some (CharSet.complement unicodeTop [(10, 10)])

namespace Expression

def onlyEmpty : Expression → Bool
  | .empty => true
  | .chars _ => false
  | .look _ => true
  | .seq a b => a.onlyEmpty && b.onlyEmpty
  | .alt a b => a.onlyEmpty && b.onlyEmpty
  | .group e => e.onlyEmpty
  | .repetition e _ _ => e.onlyEmpty

/-- Once is enough for what matches no character. -/
def repeated (e : Expression) (least : Nat) (most : Option Nat) : Expression :=
  let (least, most) := if e.onlyEmpty then (min least 1, some (min (most.getD 1) 1)) else (least, most)
  if most = some 0 then .empty
  else if least = 1 ∧ most = some 1 then e
  else .repetition e least most

end Expression

mutual
def Tree.expression? (m : Mode) : Tree → Option (Expression × Mode)
  | .empty => some (.empty, m)
  | .flags items => some (.empty, m.apply items)
  | .literal l => (l.expression? m).map fun e => (e, m)
  | .dot => (dotSet? m).map fun s => (.chars s, m)
  | .assertion kind => some (.look (Look.ofAssertion m kind), m)
  | .short kind negated => (m.checked (m.negate negated (kind.set m))).map fun s => (.chars s, m)
  | .property name negated => (propertySet? m name negated).map fun s => (.chars s, m)
  | .brackets negated body =>
    ((body.set? m).bind fun s => m.checked (m.negate negated (m.fold s))).map fun s => (.chars s, m)
  | .repetition body least most =>
    match body.expression? m with
    | some (e, m) => some (e.repeated least most, m)
    | none => none
  | .group items body =>
    match body.expression? (m.apply items) with
    | some (e, _) => some (.group e, m)
    | none => none
  | .concat parts => Tree.sequence? m parts
  | .alternatives branches => Tree.choice? m branches

def Tree.sequence? (m : Mode) : List Tree → Option (Expression × Mode)
  | [] => some (.empty, m)
  | t :: rest =>
    match t.expression? m with
    | some (e, m) =>
      match Tree.sequence? m rest with
      | some (f, m) => some (.seq e f, m)
      | none => none
    | none => none

def Tree.choice? (m : Mode) : List Tree → Option (Expression × Mode)
  | [] => some (.chars [], m)
  | t :: rest =>
    match t.expression? m with
    | some (e, m) =>
      match Tree.choice? m rest with
      | some (f, m) => some (.alt e f, m)
      | none => none
    | none => none
end

end StorePolicy.Pattern

import StorePolicy.Json.Number

/-!
# Outlines of JSON texts

A reader of a JSON text meets its parts in order, and may object to one of them before
it comes to a place where the text is malformed. An outline holds what there is to
meet: the tree of the text, with `broken` in the place where the text goes wrong and
nothing after it. A part that is well-formed but has no value (a number out of range,
half a surrogate pair, a level of nesting too deep) is `unreadable`: it does no harm to
a reader who skips it.
-/
namespace StorePolicy.Json

inductive Outline where
  | null
  | bool (b : Bool)
  | int (i : Int)
  | float (d : Double)
  | str (s : String)
  | arr (items : List Outline)
  | obj (members : List (Option String × Outline))
  | broken
  | unreadable (inner : Outline)
deriving Inhabited

namespace Outline

def maxDepth : Nat := 127

def isSpace (c : Char) : Bool := c == ' ' || c == '\n' || c == '\t' || c == '\r'

def skipSpace (cs : List Char) : List Char := cs.dropWhile isSpace

def digitsOf (cs : List Char) : List Nat × List Char :=
  ((cs.takeWhile Char.isDigit).map (fun c => c.toNat - 48), cs.dropWhile Char.isDigit)

def ofNumber (t : NumberText) : Outline :=
  match t.value? with
  | some (.int i) => .int i
  | some (.float d) => .float d
  | _ => .unreadable .null

def readExponent : List Char → Option (Option (Bool × List Nat) × List Char)
  | 'e' :: rest | 'E' :: rest =>
    let (negative, rest) := match rest with
      | '-' :: r => (true, r)
      | '+' :: r => (false, r)
      | r => (false, r)
    match digitsOf rest with
    | ([], _) => none
    | (ds, rest) => some (some (negative, ds), rest)
  | rest => some (none, rest)

def readNumber (negative : Bool) (cs : List Char) : Outline × Option (List Char) :=
  match digitsOf cs with
  | ([], _) => (.broken, none)
  | (0 :: _ :: _, _) => (.broken, none)
  | (whole, rest) =>
    let fraction : Option (List Nat × List Char) :=
      match rest with
      | '.' :: r =>
        match digitsOf r with
        | ([], _) => none
        | (ds, r) => some (ds, r)
      | r => some ([], r)
    match fraction with
    | none => (.broken, none)
    | some (fraction, rest) =>
      match readExponent rest with
      | none => (.broken, none)
      | some (exponent, rest) => (ofNumber ⟨negative, whole, fraction, exponent⟩, some rest)

def hexValue? (c : Char) : Option Nat :=
  if c.isDigit then some (c.toNat - 48)
  else if 'a' ≤ c ∧ c ≤ 'f' then some (c.toNat - 87)
  else if 'A' ≤ c ∧ c ≤ 'F' then some (c.toNat - 55)
  else none

def hex4 (a b c d : Char) : Option Nat := do
  return ((← hexValue? a) * 16 + (← hexValue? b)) * 256 + (← hexValue? c) * 16 + (← hexValue? d)

/-- The part of a text after its opening quote: its code units up to the closing quote,
escapes as the numbers they stand for. -/
def readUnits (acc : List Nat) : List Char → Option (List Nat × List Char)
  | [] => none
  | '"' :: rest => some (acc.reverse, rest)
  | '\\' :: 'u' :: a :: b :: c :: d :: rest =>
    match hex4 a b c d with
    | some n => readUnits (n :: acc) rest
    | none => none
  | '\\' :: c :: rest =>
    match c with
    | '"' | '\\' | '/' => readUnits (c.toNat :: acc) rest
    | 'b' => readUnits (8 :: acc) rest
    | 'f' => readUnits (12 :: acc) rest
    | 'n' => readUnits (10 :: acc) rest
    | 'r' => readUnits (13 :: acc) rest
    | 't' => readUnits (9 :: acc) rest
    | _ => none
  | c :: rest => if c.toNat < 32 ∨ c = '\\' then none else readUnits (c.toNat :: acc) rest

def isHighHalf (n : Nat) : Bool := 0xD800 ≤ n && n ≤ 0xDBFF

def isLowHalf (n : Nat) : Bool := 0xDC00 ≤ n && n ≤ 0xDFFF

def unitChars? : List Nat → Option (List Char)
  | [] => some []
  | [n] => if isHighHalf n || isLowHalf n then none else some [Char.ofNat n]
  | n :: m :: rest =>
    if isHighHalf n then
      if isLowHalf m then
        (unitChars? rest).map (Char.ofNat (0x10000 + (n - 0xD800) * 1024 + (m - 0xDC00)) :: ·)
      else none
    else if isLowHalf n then none
    else (unitChars? (m :: rest)).map (Char.ofNat n :: ·)

def unitsText? (us : List Nat) : Option String := (unitChars? us).map String.ofList

mutual
def readValue (fuel depth : Nat) (cs : List Char) : Outline × Option (List Char) :=
  match fuel with
  | 0 => (.broken, none)
  | fuel + 1 =>
    match skipSpace cs with
    | 'n' :: 'u' :: 'l' :: 'l' :: rest => (.null, some rest)
    | 't' :: 'r' :: 'u' :: 'e' :: rest => (.bool true, some rest)
    | 'f' :: 'a' :: 'l' :: 's' :: 'e' :: rest => (.bool false, some rest)
    | '-' :: rest => readNumber true rest
    | '"' :: rest =>
      match readUnits [] rest with
      | none => (.broken, none)
      | some (us, rest) =>
        match unitsText? us with
        | some s => (.str s, some rest)
        | none => (.unreadable .null, some rest)
    | '[' :: rest =>
      let (items, rest) := readItems fuel (depth + 1) true rest
      (limit depth (.arr items), rest)
    | '\x7b' :: rest =>
      let (members, rest) := readMembers fuel (depth + 1) true rest
      (limit depth (.obj members), rest)
    | c :: rest => if c.isDigit then readNumber false (c :: rest) else (.broken, none)
    | [] => (.broken, none)

def readItems (fuel depth : Nat) (first : Bool) (cs : List Char) :
    List Outline × Option (List Char) :=
  match fuel with
  | 0 => ([.broken], none)
  | fuel + 1 =>
    match skipSpace cs with
    | ']' :: rest => ([], some rest)
    | c :: rest =>
      let next : Option (List Char) :=
        if first then some (c :: rest)
        else if c = ',' then
          match skipSpace rest with
          | ']' :: _ => none
          | r => some r
        else none
      match next with
      | none => ([.broken], none)
      | some cs =>
        match readValue fuel depth cs with
        | (o, none) => ([o], none)
        | (o, some rest) =>
          let (items, rest) := readItems fuel depth false rest
          (o :: items, rest)
    | [] => ([.broken], none)

def readMembers (fuel depth : Nat) (first : Bool) (cs : List Char) :
    List (Option String × Outline) × Option (List Char) :=
  match fuel with
  | 0 => ([(none, .broken)], none)
  | fuel + 1 =>
    match skipSpace cs with
    | '\x7d' :: rest => ([], some rest)
    | c :: rest =>
      let next : List Char :=
        if first then c :: rest else if c = ',' then skipSpace rest else []
      match next with
      | '"' :: rest =>
        match readUnits [] rest with
        | none => ([(none, .broken)], none)
        | some (us, rest) =>
          let key := unitsText? us
          match skipSpace rest with
          | ':' :: rest =>
            match readValue fuel depth rest with
            | (o, none) => ([(key, o)], none)
            | (o, some rest) =>
              let (members, rest) := readMembers fuel depth false rest
              ((key, o) :: members, rest)
          | _ => ([(key, .broken)], none)
      | _ => ([(none, .broken)], none)
    | [] => ([(none, .broken)], none)

def limit (depth : Nat) (o : Outline) : Outline :=
  if depth < maxDepth then o else .unreadable o
end

mutual
def whole : Outline → Bool
  | .broken => false
  | .arr items => wholeItems items
  | .obj members => wholeMembers members
  | .unreadable o => whole o
  | _ => true

def wholeItems : List Outline → Bool
  | [] => true
  | o :: rest => whole o && wholeItems rest

def wholeMembers : List (Option String × Outline) → Bool
  | [] => true
  | (_, o) :: rest => whole o && wholeMembers rest
end

mutual
def value? : Outline → Option Value
  | .null => some .null
  | .bool b => some (.bool b)
  | .int i => some (.int i)
  | .float d => some (.float d)
  | .str s => some (.str s)
  | .arr items => (values? items).map .seq
  | .obj members => (entries? members).map .map
  | .broken => none
  | .unreadable _ => none

def values? : List Outline → Option (List Value)
  | [] => some []
  | o :: rest =>
    match value? o, values? rest with
    | some v, some vs => some (v :: vs)
    | _, _ => none

def entries? : List (Option String × Outline) → Option (List (Value × Value))
  | [] => some []
  | (some k, o) :: rest =>
    match value? o, entries? rest with
    | some v, some es => some ((.str k, v) :: es)
    | _, _ => none
  | (none, _) :: _ => none
end

mutual
def json? : Outline → Option Json
  | .null => some .null
  | .bool b => some (.bool b)
  | .int i => some (.int i)
  | .float d => some (.float d)
  | .str s => some (.str s)
  | .arr items => (jsons? items).map .arr
  | .obj members => (jsonMembers? members).map fun ms => .obj (sortMembers ms)
  | .broken => none
  | .unreadable _ => none

def jsons? : List Outline → Option (List Json)
  | [] => some []
  | o :: rest =>
    match json? o, jsons? rest with
    | some v, some vs => some (v :: vs)
    | _, _ => none

def jsonMembers? : List (Option String × Outline) → Option (List (String × Json))
  | [] => some []
  | (some k, o) :: rest =>
    match json? o, jsonMembers? rest with
    | some v, some es => some ((k, v) :: es)
    | _, _ => none
  | (none, _) :: _ => none
end

end Outline

structure TextOutline where
  root : Outline
  closed : Bool

namespace TextOutline

def ofString (s : String) : TextOutline :=
  let cs := s.toList
  match Outline.readValue (2 * cs.length + 2) 0 cs with
  | (o, none) => ⟨o, false⟩
  | (o, some rest) => ⟨o, (Outline.skipSpace rest).isEmpty⟩

end TextOutline

def parse? (s : String) : Option Json :=
  let t := TextOutline.ofString s
  if t.closed then t.root.json? else none

end StorePolicy.Json

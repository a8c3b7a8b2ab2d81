import StorePolicy.Value
import StorePolicy.Yaml.Token

/-!
# Scalars as values

A plain scalar is null, a boolean, an integer, a double or a text, by its spelling. A
quoted or block scalar is a text. A tag of the core schema asks for one kind, and the
text must be spelled for it.
-/
namespace StorePolicy.Yaml

def isNullText (s : String) : Bool := s == "null" || s == "Null" || s == "NULL" || s == "~"

def boolText? (s : String) : Option Bool :=
  if s == "true" || s == "True" || s == "TRUE" then some true
  else if s == "false" || s == "False" || s == "FALSE" then some false
  else none

/-- Digits with a zero in front, which are texts. -/
def paddedDigits (cs : List Char) : Bool :=
  let body := match cs with
    | '-' :: rest => rest
    | '+' :: rest => rest
    | _ => cs
  match body with
  | '0' :: c :: rest => (c :: rest).all Char.isDigit
  | _ => false

def digitValue? (base : Nat) (c : Char) : Option Nat :=
  let v :=
    if c.isDigit then c.toNat - 48
    else if 'a' ≤ c ∧ c ≤ 'z' then c.toNat - 87
    else if 'A' ≤ c ∧ c ≤ 'Z' then c.toNat - 55
    else 99
  if v < base then some v else none

def natOf? (base : Nat) (cs : List Char) : Option Nat :=
  if cs.isEmpty then none
  else cs.foldl (fun n c => do return (← n) * base + (← digitValue? base c)) (some 0)

def marked? : List Char → Option (Nat × List Char)
  | '0' :: 'x' :: rest => some (16, rest)
  | '0' :: 'o' :: rest => some (8, rest)
  | '0' :: 'b' :: rest => some (2, rest)
  | _ => none

def intText? (cs : List Char) : Option Int :=
  let (negative, body) := match cs with
    | '-' :: rest => (true, rest)
    | '+' :: rest => (false, rest)
    | _ => (false, cs)
  let magnitude : Option Nat :=
    match (marked? body).bind fun m => natOf? m.1 m.2 with
    | some n => some n
    | none => if paddedDigits cs then none else natOf? 10 body
  magnitude.map fun n => if negative then -(n : Int) else n

def digits (cs : List Char) : List Char × List Char :=
  (cs.takeWhile Char.isDigit, cs.dropWhile Char.isDigit)

def exponentText? : List Char → Option Int
  | [] => some 0
  | e :: rest =>
    if e = 'e' || e = 'E' then
      let (negative, body) := match rest with
        | '-' :: r => (true, r)
        | '+' :: r => (false, r)
        | r => (false, r)
      (natOf? 10 body).map fun n => if negative then -(n : Int) else n
    else none

def finiteText? (cs : List Char) : Option Double := do
  let (negative, body) := match cs with
    | '-' :: rest => (true, rest)
    | '+' :: rest => (false, rest)
    | _ => (false, cs)
  let (whole, rest) := digits body
  let (fraction, rest) := match rest with
    | '.' :: r => digits r
    | r => ([], r)
  if whole.isEmpty && fraction.isEmpty then none
  let e ← exponentText? rest
  let n := (whole ++ fraction).foldl (fun n c => n * 10 + (c.toNat - 48)) 0
  let d := Double.ofDecimal negative n (e - fraction.length)
  if d.isFinite then some d else none

def infinity (negative : Bool) : Double :=
  Double.ofFloat (if negative then -1.0 / 0.0 else 1.0 / 0.0)

def notANumber : Double := ⟨0x7FF8000000000000⟩

def floatText? (s : String) : Option Double :=
  let cs := s.toList
  let body := match cs with
    | '+' :: rest => rest
    | _ => cs
  if cs.head? == some '+' && (body.head? == some '+' || body.head? == some '-') then none
  else if [".inf", ".Inf", ".INF"].contains (String.ofList body) then some (infinity false)
  else if ["-.inf", "-.Inf", "-.INF"].contains s then some (infinity true)
  else if [".nan", ".NaN", ".NAN"].contains s then some notANumber
  else finiteText? body

/-- Integers of 64 bits are values. Longer ones up to 128 bits are refused, and beyond
that they are doubles. -/
def intValue? (i : Int) : Option Value :=
  if -(Nat.pow 2 63 : Int) ≤ i ∧ i < (Nat.pow 2 64 : Int) then some (.int i) else none

def isWideInt (i : Int) : Bool := -(Nat.pow 2 127 : Int) ≤ i && i < (Nat.pow 2 128 : Int)

def plainValue? (s : String) : Option Value :=
  if s = "" || isNullText s then some .null
  else
    match boolText? s with
    | some b => some (.bool b)
    | none =>
      let cs := s.toList
      let float : Value :=
        if paddedDigits cs then .str s else ((floatText? s).map Value.float).getD (.str s)
      match intText? cs with
      | some i => if isWideInt i then intValue? i else some float
      | none => some float

def nullTag : String := "tag:yaml.org,2002:null"
def boolTag : String := "tag:yaml.org,2002:bool"
def intTag : String := "tag:yaml.org,2002:int"
def floatTag : String := "tag:yaml.org,2002:float"

def localTag? : Option String → Option String
  | some t =>
    match t.toList with
    | '!' :: rest => some (String.ofList rest)
    | _ => none
  | none => none

def scalarValue? (tag : Option String) (style : ScalarStyle) (s : String) : Option Value :=
  let bare := if style = .plain then plainValue? s else some (.str s)
  match tag with
  | none => bare
  | some t =>
    if t = boolTag then (boolText? s).map .bool
    else if t = intTag then (intText? s.toList).bind intValue?
    else if t = floatTag then (floatText? s).map .float
    else if t = nullTag then if isNullText s then some .null else none
    else if (localTag? tag).isSome then bare
    else some (.str s)

end StorePolicy.Yaml

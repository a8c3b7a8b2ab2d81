import StorePolicy.Json.Value

/-!
# Numbers of JSON text

A number without fraction and exponent that fits in 64 bits is an integer. Any other
is a double, computed from the digits that fit in 64 bits and one multiplication or
division by a power of ten (several divisions below `1e-308`), so its last place may
differ from the nearest double. A result that is too large is no number.
-/
namespace StorePolicy.Json

structure NumberText where
  negative : Bool
  whole : List Nat
  fraction : List Nat
  exponent : Option (Bool × List Nat)

/-- Digits taken into a 64-bit number, and the digits left once one more would not fit. -/
def takeDigits (n : Nat) : List Nat → Nat × List Nat
  | [] => (n, [])
  | d :: rest => if n * 10 + d < Nat.pow 2 64 then takeDigits (n * 10 + d) rest else (n, d :: rest)

def powerOfTen (n : Nat) : Float := Float.ofScientific 1 false n

def scaleFloat : Nat → Float → Int → Option Float
  | 0, f, _ => some f
  | fuel + 1, f, exponent =>
    if exponent.natAbs ≤ 308 then
      if 0 ≤ exponent then
        let r := f * powerOfTen exponent.toNat
        if r.isInf then none else some r
      else some (f / powerOfTen (-exponent).toNat)
    else if f == 0.0 then some f
    else if 0 ≤ exponent then none
    else scaleFloat fuel (f / powerOfTen 308) (exponent + 308)

def clampExponent (e : Int) : Int := max (-(Nat.pow 2 31 : Int)) (min e ((Nat.pow 2 31 : Int) - 1))

def NumberText.value? (t : NumberText) : Option Json :=
  let (n, left) := takeDigits 0 t.whole
  if t.fraction.isEmpty && t.exponent.isNone && left.isEmpty && (!t.negative || (0 < n && n ≤ Nat.pow 2 63)) then
    some (.int (if t.negative then -(n : Int) else n))
  else
    let (m, unread) := takeDigits n t.fraction
    let shift : Int := (left.length : Int) - ((t.fraction.length - unread.length : Nat) : Int)
    let written : Option Int :=
      match t.exponent with
      | none => some 0
      | some (negative, ds) =>
        let e : Nat := ds.foldl (fun e d => e * 10 + d) 0
        if e < Nat.pow 2 31 then some (if negative then -(e : Int) else e)
        else if m = 0 || negative then none
        else some (Nat.pow 2 31 : Int)
    let sign (f : Float) : Json := .float (Double.ofFloat (if t.negative then -f else f))
    match written with
    | none => some (sign 0.0)
    | some e =>
      if e = (Nat.pow 2 31 : Int) then none
      else (scaleFloat 8 m.toUInt64.toFloat (clampExponent (shift + e))).map sign

end StorePolicy.Json

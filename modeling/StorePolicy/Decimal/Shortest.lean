import StorePolicy.Decimal.Double

/-!
# Shortest decimal digits

The digits of a double are the fewest that read back as the same number, and of
those the nearest to it. A grid of `n` digits is tried for `n = 1, 2, …, 17`: on each
grid only the two neighbours of the value can lie between the midpoints to the
adjacent doubles. All comparisons are exact, in natural numbers.
-/
namespace StorePolicy.Decimal

structure Digits where
  digits : Nat
  exponent : Int
deriving DecidableEq, Inhabited

def Digits.strip : Nat → Digits → Digits
  | 0, d => d
  | fuel + 1, d =>
    if d.digits ≠ 0 ∧ d.digits % 10 = 0 then strip fuel ⟨d.digits / 10, d.exponent + 1⟩ else d

def leadingZeros (num den : Nat) : Nat → Nat
  | 0 => 0
  | fuel + 1 => if den ≤ num then 0 else leadingZeros (num * 10) den fuel + 1

/-- The `p` with `10 ^ (p - 1) ≤ num / den < 10 ^ p`. -/
def pointPlace (num den : Nat) : Int :=
  if den ≤ num then (Nat.toDigits 10 (num / den)).length
  else 1 - (leadingZeros num den 400 : Int)

/-- The values that read back as the double: from `low` to `high` quarters of a unit in
its last place, the ends included when `closed`. -/
structure Interval where
  low : Nat
  value : Nat
  high : Nat
  closed : Bool

def Interval.ofDouble (d : Double) : Interval :=
  let m := d.magnitude
  let low := if d.fraction = 0 ∧ 1 < d.exponentField then 4 * m - 1 else 4 * m - 2
  ⟨low, 4 * m, 4 * m + 2, m % 2 == 0⟩

def scaled (n : Nat) (e : Int) : Nat × Nat :=
  if 0 ≤ e then (n * Nat.pow 10 e.toNat, 1) else (n, Nat.pow 10 (-e).toNat)

/-- The best decimal of `n` digits in the interval, whose quarters are `un / ud`. -/
def onGrid (i : Interval) (un ud : Nat) (place : Int) (n : Nat) : Option Digits :=
  let e := place - n
  let (gn, gd) := scaled 1 e
  let below := i.value * un * gd / (ud * gn)
  let inside (k : Nat) : Bool :=
    let a := k * gn * ud
    let lo := i.low * un * gd
    let hi := i.high * un * gd
    k ≠ 0 && if i.closed then lo ≤ a && a ≤ hi else lo < a && a < hi
  let exact := i.value * un * gd
  let down := exact - below * gn * ud
  let up := (below + 1) * gn * ud - exact
  match inside below, inside (below + 1) with
  | true, true =>
    if down < up || (down == up && below % 2 == 0) then some ⟨below, e⟩ else some ⟨below + 1, e⟩
  | true, false => some ⟨below, e⟩
  | false, true => some ⟨below + 1, e⟩
  | false, false => none

def shortest (d : Double) : Digits :=
  let i := Interval.ofDouble d
  let q := d.scale - 2
  let un := if 0 ≤ q then Nat.pow 2 q.toNat else 1
  let ud := if 0 ≤ q then 1 else Nat.pow 2 (-q).toNat
  let place := pointPlace (i.value * un) ud
  let grids := (List.range 17).map (· + 1)
  (((grids.filterMap (onGrid i un ud place)).head?).getD ⟨i.value * un / ud, 0⟩).strip 400

def zeros (n : Nat) : List Char := List.replicate n '0'

def positional (d : Digits) : List Char :=
  let ds := Nat.toDigits 10 d.digits
  let point := (ds.length : Int) + d.exponent
  if 0 ≤ d.exponent then ds ++ zeros d.exponent.toNat ++ ['.', '0']
  else if 0 < point then ds.take point.toNat ++ '.' :: ds.drop point.toNat
  else '0' :: '.' :: zeros (-point).toNat ++ ds

structure NumberStyle where
  plus : Bool

def scientific (style : NumberStyle) (d : Digits) : List Char :=
  let ds := Nat.toDigits 10 d.digits
  let point := (ds.length : Int) + d.exponent
  if -5 < point ∧ point ≤ 16 then positional d
  else
    let e := point - 1
    let mantissa := match ds with
      | [] => ['0']
      | [c] => [c]
      | c :: rest => c :: '.' :: rest
    let sign := if e < 0 then ['-'] else if style.plus then ['+'] else []
    mantissa ++ 'e' :: sign ++ Nat.toDigits 10 e.natAbs

def signed (d : Double) (body : List Char) : String :=
  String.ofList (if d.negative then '-' :: body else body)

def text (style : NumberStyle) (d : Double) : String :=
  signed d (if d.isZero then ['0', '.', '0'] else scientific style (shortest d))

def plainText (d : Double) : String :=
  if d.isNaN then "NaN"
  else if !d.isFinite then (if d.negative then "-inf" else "inf")
  else signed d (if d.isZero then ['0', '.', '0'] else positional (shortest d))

/-- A finite double with a fixed number of digits after the point; a tie goes to the even
neighbour. -/
def fixed (places : Nat) (d : Double) : String :=
  let un := if 0 ≤ d.scale then Nat.pow 2 d.scale.toNat else 1
  let ud := if 0 ≤ d.scale then 1 else Nat.pow 2 (-d.scale).toNat
  let num := d.magnitude * un * Nat.pow 10 places
  let floor := num / ud
  let rest := num % ud
  let n := if 2 * rest < ud ∨ (2 * rest = ud ∧ floor % 2 = 0) then floor else floor + 1
  let ds := Nat.toDigits 10 n
  let ds := zeros (places + 1 - ds.length) ++ ds
  signed d (ds.take (ds.length - places) ++ '.' :: ds.drop (ds.length - places))

end StorePolicy.Decimal

/-!
# Double-precision numbers

A number of the double format is held as its sixty-four bits, so that two numbers
are equal terms exactly when they are the same number of the format. `magnitude`
and `scale` give the exact value of a finite number as `magnitude * 2 ^ scale`.
-/
namespace StorePolicy

structure Double where
  bits : UInt64
deriving DecidableEq, Inhabited

namespace Double

def ofFloat (x : Float) : Double := ⟨x.toBits⟩

def toFloat (d : Double) : Float := Float.ofBits d.bits

def negative (d : Double) : Bool := d.bits.toNat / Nat.pow 2 63 == 1

def exponentField (d : Double) : Nat := d.bits.toNat / Nat.pow 2 52 % 2048

def fraction (d : Double) : Nat := d.bits.toNat % Nat.pow 2 52

def isFinite (d : Double) : Bool := d.exponentField != 2047

def isNaN (d : Double) : Bool := d.exponentField == 2047 && d.fraction != 0

def isZero (d : Double) : Bool := d.exponentField == 0 && d.fraction == 0

def magnitude (d : Double) : Nat :=
  if d.exponentField = 0 then d.fraction else d.fraction + Nat.pow 2 52

def scale (d : Double) : Int :=
  if d.exponentField = 0 then -1074 else (d.exponentField : Int) - 1075

/-- Equality as numbers: the two zeros are equal, and so are all values that are not
numbers. -/
def same (a b : Double) : Bool :=
  a == b || (a.isZero && b.isZero) || (a.isNaN && b.isNaN)

/-- The number nearest to `digits * 10 ^ exponent`, infinite if that is too large. -/
def ofDecimal (negative : Bool) (digits : Nat) (exponent : Int) : Double :=
  let length : Int := (Nat.toDigits 10 digits).length
  let x : Float :=
    if digits = 0 then 0.0
    else if length + exponent > 400 then 1.0 / 0.0
    else if length + exponent < -400 then 0.0
    else if exponent < 0 then Float.ofScientific digits true (-exponent).toNat
    else Float.ofScientific digits false exponent.toNat
  ofFloat (if negative then -x else x)

end Double
end StorePolicy

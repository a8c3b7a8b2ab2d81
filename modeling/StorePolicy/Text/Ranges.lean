/-!
# Sets of characters as ranges

A property of characters is written as a text of ranges in base sixteen, `61-7A` or
`5F`, in rising order and set apart by blanks. A set is read once and asked by
bisection.
-/
namespace StorePolicy.Text

structure Ranges where
  spans : Array (Nat × Nat)

namespace Ranges

def hexDigit? (c : Char) : Option Nat :=
  let n := c.toNat
  if 48 ≤ n && n ≤ 57 then some (n - 48)
  else if 65 ≤ n && n ≤ 70 then some (n - 55)
  else if 97 ≤ n && n ≤ 102 then some (n - 87)
  else none

/-- Reads one range after the other; any character that is neither a digit nor the hyphen
ends a range. -/
def read (done : Array (Nat × Nat)) (first current : Option Nat) :
    List Char → Array (Nat × Nat)
  | [] => close done first current
  | c :: rest =>
    match hexDigit? c with
    | some d => read done first (some (current.getD 0 * 16 + d)) rest
    | none =>
      if c = '-' then read done current none rest
      else read (close done first current) none none rest
where
  close (done : Array (Nat × Nat)) : Option Nat → Option Nat → Array (Nat × Nat)
    | some a, some b => done.push (a, b)
    | none, some b => done.push (b, b)
    | _, none => done

def ofText (s : String) : Ranges := ⟨read #[] none none s.toList⟩

def find (spans : Array (Nat × Nat)) (n lo hi : Nat) : Bool :=
  if _h : lo < hi then
    let mid := (lo + hi) / 2
    match spans[mid]? with
    | none => false
    | some (a, b) =>
      if n < a then find spans n lo mid
      else if b < n then find spans n (mid + 1) hi
      else true
  else false
termination_by hi - lo
decreasing_by
  · omega
  · omega

def contains (r : Ranges) (c : Char) : Bool := find r.spans c.toNat 0 r.spans.size

end Ranges
end StorePolicy.Text

import StorePolicy.Text.Case
import StorePolicy.Text.Letters

/-!
# Sets of characters in patterns

A set is a list of ranges of code points, rising and apart from each other. The sets of a
pattern are built by union, intersection, difference and complement, and may be closed
under case.
-/
namespace StorePolicy.Pattern

abbrev CharSet := List (Nat × Nat)

namespace CharSet

def mergeFrom (a b : Nat) : List (Nat × Nat) → CharSet
  | [] => [(a, b)]
  | (c, d) :: rest => if c ≤ b + 1 then mergeFrom a (max b d) rest else (a, b) :: mergeFrom c d rest

def merge : List (Nat × Nat) → CharSet
  | [] => []
  | (a, b) :: rest => mergeFrom a b rest

def ofRanges (ranges : List (Nat × Nat)) : CharSet :=
  merge ((ranges.filter fun r => r.1 ≤ r.2).mergeSort fun x y => x.1 ≤ y.1)

def single (n : Nat) : CharSet := [(n, n)]

def union (s t : CharSet) : CharSet := ofRanges (s ++ t)

def gaps (top start : Nat) : CharSet → CharSet
  | [] => if start ≤ top then [(start, top)] else []
  | (a, b) :: rest =>
    if start < a then (start, a - 1) :: gaps top (b + 1) rest else gaps top (b + 1) rest

def complement (top : Nat) (s : CharSet) : CharSet := gaps top 0 s

def difference (top : Nat) (s t : CharSet) : CharSet :=
  complement top (union (complement top s) t)

def intersection (top : Nat) (s t : CharSet) : CharSet :=
  complement top (union (complement top s) (complement top t))

def symmetric (top : Nat) (s t : CharSet) : CharSet :=
  union (difference top s t) (difference top t s)

def contains (s : CharSet) (n : Nat) : Bool := s.any fun r => r.1 ≤ n && n ≤ r.2

def isBasic (s : CharSet) : Bool := s.all fun r => r.2 < 128

end CharSet

def groupFolds : List (Nat × Nat) → List (Nat × List Nat)
  | [] => []
  | (n, f) :: rest =>
    match groupFolds rest with
    | (g, ns) :: more => if f = g then (g, n :: ns) :: more else (f, [n]) :: (g, ns) :: more
    | [] => [(f, [n])]

/-- The classes of code points that differ in case only; basic letters among them. -/
def foldClasses : List (List Nat) :=
  let basic := (List.range 26).map fun i => (65 + i, 97 + i)
  let pairs := (basic ++ Text.foldPairs).mergeSort fun x y => x.2 ≤ y.2
  (groupFolds pairs).map fun g => (g.1 :: g.2).eraseDups

namespace CharSet

def closeCase (s : CharSet) : CharSet :=
  let ranges := s.toArray
  let has (n : Nat) : Bool := Text.Ranges.find ranges n 0 ranges.size
  ofRanges (s ++ (foldClasses.filter (·.any has)).flatMap fun ns => ns.map fun n => (n, n))

def closeBasicCase (s : CharSet) : CharSet :=
  let letters := (List.range 26).flatMap fun i =>
    if s.contains (65 + i) || s.contains (97 + i) then [(65 + i, 65 + i), (97 + i, 97 + i)] else []
  ofRanges (s ++ letters)

end CharSet

def unicodeTop : Nat := 0x10FFFF
def byteTop : Nat := 0xFF

def digitSet : CharSet := Text.digitRanges.toList
def spaceSet : CharSet := Text.blankRanges.toList
def wordSet : CharSet := Text.wordRanges.toList

def basicDigits : CharSet := [(48, 57)]
def basicSpaces : CharSet := [(9, 13), (32, 32)]
def basicWord : CharSet := [(48, 57), (65, 90), (95, 95), (97, 122)]

end StorePolicy.Pattern

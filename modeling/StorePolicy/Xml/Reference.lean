/-!
# References in XML texts

A reference stands between `&` and `;`: the name of one of the five predefined entities,
or `#` and the number of a character, in base sixteen after an `x`. A text with any
other reference, or with an `&` that begins none, cannot be read.
-/
namespace StorePolicy.Xml

def entity? (name : List Char) : Option Char :=
  match String.ofList name with
  | "lt" => some '<'
  | "gt" => some '>'
  | "amp" => some '&'
  | "apos" => some '\''
  | "quot" => some '"'
  | _ => none

def digit? (base : Nat) (c : Char) : Option Nat :=
  let v :=
    if c.isDigit then c.toNat - 48
    else if 'a' ≤ c ∧ c ≤ 'f' then c.toNat - 87
    else if 'A' ≤ c ∧ c ≤ 'F' then c.toNat - 55
    else 99
  if v < base then some v else none

def number? (base : Nat) (digits : List Char) : Option Nat :=
  if digits.isEmpty then none
  else digits.foldl (fun n c => do return (← n) * base + (← digit? base c)) (some 0)

def charOf? (n : Nat) : Option Char :=
  if n = 0 then none else if n.isValidChar then some (Char.ofNat n) else none

def reference? : List Char → Option Char
  | '#' :: 'x' :: digits => (number? 16 digits).bind charOf?
  | '#' :: digits => (number? 10 digits).bind charOf?
  | name => entity? name

def inReference (c : Char) : Bool := c != '&' && c != ';'

theorem length_dropWhile_le (p : Char → Bool) (cs : List Char) :
    (cs.dropWhile p).length ≤ cs.length := (List.dropWhile_suffix p).length_le

def unescape? (cs : List Char) : Option (List Char) :=
  match cs with
  | [] => some []
  | c :: rest =>
    if c = '&' then
      match _h : rest.dropWhile inReference with
      | ';' :: after =>
        match reference? (rest.takeWhile inReference) with
        | some r => (unescape? after).map (r :: ·)
        | none => none
      | _ => none
    else (unescape? rest).map (c :: ·)
termination_by cs.length
decreasing_by
  · have := length_dropWhile_le inReference rest
    rw [_h] at this
    simp only [List.length_cons] at this ⊢
    omega
  · simp

end StorePolicy.Xml

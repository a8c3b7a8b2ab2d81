/-!
# Blank characters

White space is the set that carries the `White_Space` property: tab to carriage
return, the space, next line, the no-break spaces and the spaces of general
punctuation. Trimming cuts it at both ends of a text. Texts are handled as lists
of characters, and the `String` versions only convert.
-/
namespace StorePolicy.Text

def isBlank (c : Char) : Bool :=
  let n := c.toNat
  (9 ≤ n && n ≤ 13) || n == 32 || n == 0x85 || n == 0xA0 || n == 0x1680 ||
    (0x2000 ≤ n && n ≤ 0x200A) || n == 0x2028 || n == 0x2029 || n == 0x202F ||
    n == 0x205F || n == 0x3000

def trimLeft (cs : List Char) : List Char := cs.dropWhile isBlank

def trimRight (cs : List Char) : List Char := (cs.reverse.dropWhile isBlank).reverse

def trim (cs : List Char) : List Char := trimRight (trimLeft cs)

def trimmed (s : String) : String := String.ofList (trim s.toList)

def blank (s : String) : Bool := s.toList.all isBlank

end StorePolicy.Text

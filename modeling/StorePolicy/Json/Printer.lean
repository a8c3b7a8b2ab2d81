import StorePolicy.Json.Value
import StorePolicy.Decimal.Shortest

/-!
# JSON text

The compact form has no blanks; the indented form puts each item and member on a line
of its own, two columns further in than the bracket around it. Texts escape the
quote, the backslash and the controls, and hold every other character as it is.
-/
namespace StorePolicy.Json

def numberStyle : Decimal.NumberStyle := ⟨true⟩

def floatText (d : Double) : String :=
  if d.isFinite then Decimal.text numberStyle d else "null"

def hexPair (n : Nat) : List Char :=
  [Nat.digitChar (n / 16 % 16), Nat.digitChar (n % 16)]

def escapeChar (c : Char) : List Char :=
  if c = '"' then ['\\', '"']
  else if c = '\\' then ['\\', '\\']
  else if c.toNat = 8 then ['\\', 'b']
  else if c.toNat = 12 then ['\\', 'f']
  else if c.toNat = 10 then ['\\', 'n']
  else if c.toNat = 13 then ['\\', 'r']
  else if c.toNat = 9 then ['\\', 't']
  else if c.toNat < 32 then ['\\', 'u', '0', '0'] ++ hexPair c.toNat
  else [c]

def quote (s : String) : String :=
  String.ofList ('"' :: s.toList.flatMap escapeChar ++ ['"'])

def scalarText : Json → String
  | .null => "null"
  | .bool true => "true"
  | .bool false => "false"
  | .int i => toString i
  | .float d => floatText d
  | .str s => quote s
  | _ => ""

mutual
def compact : Json → String
  | .arr items => "[" ++ compactItems items ++ "]"
  | .obj members => "\x7b" ++ compactMembers members ++ "\x7d"
  | .null => "null"
  | .bool b => scalarText (.bool b)
  | .int i => scalarText (.int i)
  | .float d => scalarText (.float d)
  | .str s => scalarText (.str s)

def compactItems : List Json → String
  | [] => ""
  | [j] => compact j
  | j :: rest => compact j ++ "," ++ compactItems rest

def compactMembers : List (String × Json) → String
  | [] => ""
  | [(k, j)] => quote k ++ ":" ++ compact j
  | (k, j) :: rest => quote k ++ ":" ++ compact j ++ "," ++ compactMembers rest
end

def lineAt (depth : Nat) : String := "\n" ++ String.ofList (List.replicate (2 * depth) ' ')

mutual
def indentedAt (depth : Nat) : Json → String
  | .arr [] => "[]"
  | .obj [] => "\x7b\x7d"
  | .arr items => "[" ++ indentedItems (depth + 1) items ++ lineAt depth ++ "]"
  | .obj members => "\x7b" ++ indentedMembers (depth + 1) members ++ lineAt depth ++ "\x7d"
  | .null => "null"
  | .bool b => scalarText (.bool b)
  | .int i => scalarText (.int i)
  | .float d => scalarText (.float d)
  | .str s => scalarText (.str s)

def indentedItems (depth : Nat) : List Json → String
  | [] => ""
  | [j] => lineAt depth ++ indentedAt depth j
  | j :: rest => lineAt depth ++ indentedAt depth j ++ "," ++ indentedItems depth rest

def indentedMembers (depth : Nat) : List (String × Json) → String
  | [] => ""
  | [(k, j)] => lineAt depth ++ quote k ++ ": " ++ indentedAt depth j
  | (k, j) :: rest =>
    lineAt depth ++ quote k ++ ": " ++ indentedAt depth j ++ "," ++ indentedMembers depth rest
end

def indented (j : Json) : String := indentedAt 0 j

end StorePolicy.Json

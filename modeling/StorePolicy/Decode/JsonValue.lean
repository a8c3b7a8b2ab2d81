import StorePolicy.Decode.Record

/-!
# Reading from JSON values

A JSON value in memory is read like a JSON text, except that a choice of the wrong kind
is told as such.
-/
namespace StorePolicy.JsonValue

def found : Json → Found
  | .null => .null
  | .bool b => .bool b
  | .int i => .int i
  | .float d => .float d
  | .str s => .str s
  | .arr _ => .seq
  | .obj _ => .map

def mismatch {α : Type} (j : Json) (expected : String) : Read α :=
  fail (.mismatch (found j) expected)

def text : Json → Read String
  | .str s => pure s
  | j => mismatch j "a string"

def flag : Json → Read Bool
  | .bool b => pure b
  | j => mismatch j "a boolean"

def count : Json → Read Nat
  | .int i => if i < 0 then fail (.badValue (.int i) "usize") else pure i.toNat
  | j => mismatch j "usize"

def optional : Json → Read (Option Json)
  | .null => pure none
  | j => pure (some j)

def items : Json → Read (List Json)
  | .arr vs => pure vs
  | j => mismatch j "a sequence"

def label (expected : String) : Json → Read Label
  | .str s => pure (.name s)
  | j => mismatch j expected

def record (title : String) : Json → Read (Fields Json)
  | .obj ms => pure (.named (ms.map fun m => ⟨pure (.name m.1), .unknown, m.2⟩))
  | .arr vs => pure (.listed vs)
  | j => mismatch j title

def parts : Json → Read (Parts Json)
  | .obj ms => pure (.entries (ms.map fun m => (.str m.1, m.2)))
  | .arr vs => pure (.items vs)
  | j => pure (.other (found j))

def choice (known : List String) : Json → Read String
  | .str s => knownVariant .ofFault known s
  | .obj [(k, v)] => do
    let name ← knownVariant .ofFault known k
    match v with
    | .null => pure name
    | _ => mismatch v "unit"
  | .obj _ => fail (.badValue .map "map with a single key")
  | j => mismatch j "string or map"

def dialect : Dialect Json where
  wording := .json
  located := false
  text := text
  flag := flag
  count := count
  optional := optional
  items := items
  record := record
  choice := choice
  parts := parts
  step := fun _ => .unknown
  label := label
  content := fun j => pure j.toValue
  skip := fun _ => pure ()
  surplus := fun total _ => .badLength total "fewer elements in array"

end StorePolicy.JsonValue

import StorePolicy.Decode.Record
import StorePolicy.Json.Value

/-!
# Reading from content

Content is a part of a document that was read before its type was known. It keeps the
kinds of the document, so a number is no text. Records may be rows of values, fields and
variants may be known by their places, and a choice may be a mapping with a single key.
-/
namespace StorePolicy.Content

def mismatch {α : Type} (v : Value) (expected : String) : Read α :=
  fail (.mismatch (.ofValue v) expected)

def text : Value → Read String
  | .str s => pure s
  | v => mismatch v "a string"

def flag : Value → Read Bool
  | .bool b => pure b
  | v => mismatch v "a boolean"

def count : Value → Read Nat
  | .int i => if i < 0 then fail (.badValue (.int i) "usize") else pure i.toNat
  | v => mismatch v "usize"

def optional : Value → Read (Option Value)
  | .null => pure none
  | v => pure (some v)

def items : Value → Read (List Value)
  | .seq vs => pure vs
  | v => mismatch v "a sequence"

def label (expected : String) : Value → Read Label
  | .str s => pure (.name s)
  | .int i => if i < 0 then fail (.mismatch (.int i) expected) else pure (.index i.toNat)
  | v => mismatch v expected

def entries (es : List (Value × Value)) : List (Entry Value) :=
  es.map fun e => ⟨label "field identifier" e.1, .unknown, e.2⟩

def record (title : String) : Value → Read (Fields Value)
  | .map es => pure (.named (entries es))
  | .seq vs => pure (.listed vs)
  | v => mismatch v title

def parts : Value → Read (Parts Value)
  | .map es => pure (.entries es)
  | .seq vs => pure (.items vs)
  | v => pure (.other (.ofValue v))

def variant (known : List String) (v : Value) : Read String := do
  match ← label "variant identifier" v with
  | .name s => knownVariant .ofFault known s
  | .index n =>
    match known[n]? with
    | some s => pure s
    | none => fail (.badValue (.int n) ("variant index 0 <= i < " ++ toString known.length))

def choice (known : List String) : Value → Read String
  | .str s => knownVariant .ofFault known s
  | .map [(k, v)] => do
    let name ← variant known k
    match v with
    | .null => pure name
    | .map [] => pure name
    | _ => mismatch v "unit"
  | .map _ => fail (.badValue .map "map with a single key")
  | v => mismatch v "string or map"

mutual
/-- Content as a JSON value: numbers that are not finite become null, and the keys of
mappings must be texts. -/
def json : Value → Read Json
  | .null => pure .null
  | .bool b => pure (.bool b)
  | .int i => pure (.int i)
  | .float d => pure (if d.isFinite then .float d else .null)
  | .str s => pure (.str s)
  | .seq vs => do return .arr (← jsonItems vs)
  | .map es => do return .obj (Json.sortMembers (← jsonMembers true es))
  | .tagged _ _ => fail .taggedContent

def jsonItems : List Value → Read (List Json)
  | [] => pure []
  | v :: rest => do
    let j ← json v
    return j :: (← jsonItems rest)

def jsonMembers (first : Bool) : List (Value × Value) → Read (List (String × Json))
  | [] => pure []
  | (.str k, v) :: rest => do
    let j ← json v
    return (k, j) :: (← jsonMembers false rest)
  | (k, _) :: _ => mismatch k (if first then "a string key" else "a string")
end

def dialect (w : Wording) : Dialect Value where
  wording := w
  located := false
  text := text
  flag := flag
  count := count
  optional := optional
  items := items
  record := record
  choice := choice
  parts := parts
  step := fun _ => .unknown
  label := label
  content := pure
  skip := fun _ => pure ()
  surplus := fun total n => .badLength total (Schema.elements n ++ " in sequence")

end StorePolicy.Content

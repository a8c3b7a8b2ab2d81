import StorePolicy.Decode.Record

/-!
# Reading from YAML values

In a YAML value null stands for an empty sequence and an empty record. Tags are looked
through, except where a choice is wanted: there a tag names the variant.
-/
namespace StorePolicy.YamlValue

def mismatch {α : Type} (v : Value) (expected : String) : Read α :=
  fail (.mismatch (.ofValue v) expected)

def text (v : Value) : Read String :=
  match v.untagged with
  | .str s => pure s
  | u => mismatch u "a string"

def flag (v : Value) : Read Bool :=
  match v.untagged with
  | .bool b => pure b
  | u => mismatch u "a boolean"

def count (v : Value) : Read Nat :=
  match v.untagged with
  | .int i => if i < 0 then fail (.badValue (.int i) "usize") else pure i.toNat
  | u => mismatch u "usize"

def optional : Value → Read (Option Value)
  | .null => pure none
  | v => pure (some v)

def items (v : Value) : Read (List Value) :=
  match v.untagged with
  | .seq vs => pure vs
  | .null => pure []
  | u => mismatch u "a sequence"

def label (expected : String) (v : Value) : Read Label :=
  match v.untagged with
  | .str s => pure (.name s)
  | u => mismatch u expected

def record (title : String) (v : Value) : Read (Fields Value) :=
  match v.untagged with
  | .map es => pure (.named (es.map fun e => ⟨label "field identifier" e.1, .unknown, e.2⟩))
  | .null => pure (.named [])
  | u => mismatch u title

def parts : Value → Read (Parts Value)
  | .map es => pure (.entries es)
  | .seq vs => pure (.items vs)
  | v => pure (.other (.ofValue v))

def choice (known : List String) : Value → Read String
  | .str s => knownVariant .ofFault known s
  | .tagged t v => do
    let name ← knownVariant .ofFault known t
    match v with
    | .null => pure name
    | _ => mismatch v "unit"
  | v => mismatch v "a Value::Tagged enum"

mutual
def untaggedAll : Value → Bool
  | .tagged _ _ => false
  | .seq vs => untaggedItems vs
  | .map es => untaggedEntries es
  | .null => true
  | .bool _ => true
  | .int _ => true
  | .float _ => true
  | .str _ => true

def untaggedItems : List Value → Bool
  | [] => true
  | v :: rest => untaggedAll v && untaggedItems rest

def untaggedEntries : List (Value × Value) → Bool
  | [] => true
  | (k, v) :: rest => untaggedAll k && untaggedAll v && untaggedEntries rest
end

def content (v : Value) : Read Value := if untaggedAll v then pure v else fail .taggedContent

def dialect : Dialect Value where
  wording := .yaml
  located := false
  text := text
  flag := flag
  count := count
  optional := optional
  items := items
  record := record
  choice := choice
  parts := parts
  step := fun _ => .unknown
  label := label
  content := content
  skip := fun _ => pure ()
  surplus := fun total n => .badLength total (Schema.elements n)

end StorePolicy.YamlValue

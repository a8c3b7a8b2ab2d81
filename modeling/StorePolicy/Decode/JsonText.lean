import StorePolicy.Decode.Record
import StorePolicy.Json.Outline

/-!
# Reading from JSON texts

A JSON text is read in its order: a fault in a part that comes before the place where
the text is malformed is met first. Where a choice is wanted, anything but a text or an
object counts as malformed.
-/
namespace StorePolicy.JsonText

open Json (Outline TextOutline)

def found? : Outline → Option Found
  | .null => some .null
  | .bool b => some (.bool b)
  | .int i => some (.int i)
  | .float d => some (.float d)
  | .str s => some (.str s)
  | .arr _ => some .seq
  | .obj _ => some .map
  | .broken => none
  | .unreadable .null => none
  | .unreadable o => found? o

def mismatch {α : Type} (o : Outline) (expected : String) : Read α :=
  match found? o with
  | some f => fail (.mismatch f expected)
  | none => fail .malformed

def text : Outline → Read String
  | .str s => pure s
  | o => mismatch o "a string"

def flag : Outline → Read Bool
  | .bool b => pure b
  | o => mismatch o "a boolean"

def count : Outline → Read Nat
  | .int i => if i < 0 then fail (.badValue (.int i) "usize") else pure i.toNat
  | o => mismatch o "usize"

def optional : Outline → Read (Option Outline)
  | .null => pure none
  | o => pure (some o)

def items : Outline → Read (List Outline)
  | .arr os => pure os
  | o => mismatch o "a sequence"

def key (k : Option String) : Outline :=
  match k with
  | some s => .str s
  | none => .broken

def label (expected : String) : Outline → Read Label
  | .str s => pure (.name s)
  | o => mismatch o expected

def record (title : String) : Outline → Read (Fields Outline)
  | .obj ms => pure (.named (ms.map fun m => ⟨label "field identifier" (key m.1), .unknown, m.2⟩))
  | .arr os => pure (.listed os)
  | o => mismatch o title

def parts : Outline → Read (Parts Outline)
  | .obj ms => pure (.entries (ms.map fun m => (key m.1, m.2)))
  | .arr os => pure (.items os)
  | o =>
    match found? o with
    | some f => pure (.other f)
    | none => fail .malformed

def choice (known : List String) : Outline → Read String
  | .str s => knownVariant .ofFault known s
  | .obj ((some k, v) :: rest) => do
    let name ← knownVariant .ofFault known k
    match v with
    | .null => if rest.isEmpty then pure name else fail .malformed
    | _ => mismatch v "unit"
  | _ => fail .malformed

def content (o : Outline) : Read Value :=
  match o.value? with
  | some v => pure v
  | none => fail .malformed

def skip (o : Outline) : Read Unit := if o.whole then pure () else fail .malformed

def dialect : Dialect Outline where
  wording := .json
  located := false
  text := text
  flag := flag
  count := count
  optional := optional
  items := items
  record := record
  choice := choice
  parts := parts
  step := fun _ => .unknown
  label := label
  content := content
  skip := skip
  surplus := fun _ _ => .malformed

def read {α : Type} (reader : Outline → Read α) (s : String) : Read α := do
  let t := TextOutline.ofString s
  let v ← reader t.root
  if t.closed then pure v else fail .malformed

end StorePolicy.JsonText

import StorePolicy.Decode.Record
import StorePolicy.Yaml.Reader

/-!
# Reading from YAML texts

A YAML text is read with the types at hand: where a text is wanted any scalar is one,
whatever it spells, and any scalar may name a variant. A place left empty stands for an
empty sequence or record. Failures name their place.
-/
namespace StorePolicy.YamlText

open Yaml (Node Document)

structure Spot where
  document : Document
  depth : Nat
  node : Node

namespace Spot

def resolved (s : Spot) : Spot :=
  match s.node with
  | .alias id => { s with node := (s.document.node? id).getD .absent }
  | _ => s

def inside (s : Spot) (n : Node) : Spot := ⟨s.document, s.depth + 1, n⟩

end Spot

def refuse {α : Type} (f : Fault) : Read α := .error ⟨f, some []⟩

def found? : Node → Option Found
  | .scalar tag style s => (Yaml.scalarValue? tag style s).map Found.ofValue
  | .seq _ _ => some .seq
  | .map _ _ => some .map
  | .alias _ => none
  | .absent => some .absent
  | .broken => none

def mismatch {α : Type} (s : Spot) (expected : String) : Read α :=
  match found? s.node with
  | some f => refuse (.mismatch f expected)
  | none => refuse .malformed

def text (s : Spot) : Read String :=
  let s := s.resolved
  match s.node with
  | .scalar _ _ t => pure t
  | _ => mismatch s "a string"

/-- A scalar that may spell something else than a text where the tag `expected` is wanted. -/
def spells (expected : String) (tag : Option String) (style : Yaml.ScalarStyle) : Bool :=
  style = .plain || (style = .literal && tag = some expected)

def flag (s : Spot) : Read Bool :=
  let s := s.resolved
  match s.node with
  | .scalar tag style t =>
    match if spells Yaml.boolTag tag style then Yaml.boolText? t else none with
    | some b => pure b
    | none => mismatch s "a boolean"
  | _ => mismatch s "a boolean"

def count (s : Spot) : Read Nat :=
  let s := s.resolved
  match s.node with
  | .scalar tag style t =>
    match if spells Yaml.intTag tag style then Yaml.intText? t.toList else none with
    | some i =>
      if 0 ≤ i ∧ i < (Nat.pow 2 64 : Int) ∧ t.toList.head? ≠ some '-' then pure i.toNat
      else mismatch s "usize"
    | none => mismatch s "usize"
  | _ => mismatch s "usize"

def optional (s : Spot) : Read (Option Spot) :=
  let r := s.resolved
  match r.node with
  | .scalar tag .plain t =>
    match tag with
    | none => if t = "" || Yaml.isNullText t then pure none else pure (some s)
    | some g =>
      if g = Yaml.nullTag then
        if Yaml.isNullText t then pure none else refuse (.badValue (.str t) "null")
      else pure (some s)
  | .absent => pure none
  | .broken => refuse .malformed
  | _ => pure (some s)

def vacant : Node → Bool
  | .scalar _ .plain t => t == ""
  | .absent => true
  | _ => false

def items (s : Spot) : Read (List Spot) :=
  let s := s.resolved
  match s.node with
  | .seq _ ns => pure (ns.map s.inside)
  | n => if vacant n then pure [] else mismatch s "a sequence"

def label (expected : String) (s : Spot) : Read Label :=
  let s := s.resolved
  match s.node with
  | .scalar _ _ t => pure (.name t)
  | _ => mismatch s expected

def step (s : Spot) : Step := Yaml.keyStep s.node

def record (title : String) (s : Spot) : Read (Fields Spot) :=
  let s := s.resolved
  match s.node with
  | .map _ es =>
    pure (.named (es.map fun e =>
      ⟨label "field identifier" (s.inside e.1), Yaml.keyStep e.1, s.inside e.2⟩))
  | n => if vacant n then pure (.named []) else mismatch s title

def parts (s : Spot) : Read (Parts Spot) :=
  let s := s.resolved
  let tagged (tag : Option String) : Bool := (Yaml.localTag? tag).isSome
  match s.node with
  | .map tag es =>
    if tagged tag then pure (.other .choice)
    else pure (.entries (es.map fun e => (s.inside e.1, s.inside e.2)))
  | .seq tag ns => if tagged tag then pure (.other .choice) else pure (.items (ns.map s.inside))
  | .scalar tag style t =>
    if tagged tag then pure (.other .choice)
    else
      match found? (.scalar tag style t) with
      | some f => pure (.other f)
      | none => refuse .malformed
  | .absent => pure (.other .absent)
  | .alias _ => refuse .malformed
  | .broken => refuse .malformed

def choice (known : List String) (s : Spot) : Read String :=
  let s := s.resolved
  let located (f : Fault) : Failure := ⟨f, some []⟩
  match s.node with
  | .scalar tag style t =>
    match Yaml.localTag? tag with
    | none => knownVariant located known t
    | some name => do
      let name ← knownVariant located known name
      if style = .plain && (t = "" || Yaml.isNullText t) then pure name
      else refuse (.badValue (.str t) "null")
  | .map tag _ =>
    match Yaml.localTag? tag with
    | none => refuse (.mismatch .map "a YAML tag starting with '!'")
    | some name => do
      let _ ← knownVariant located known name
      refuse (.mismatch .map "unit")
  | .seq tag _ =>
    match Yaml.localTag? tag with
    | none => refuse (.mismatch .seq "a YAML tag starting with '!'")
    | some name => do
      let _ ← knownVariant located known name
      refuse (.mismatch .seq "unit")
  | _ => refuse .malformed

def dialect : Dialect Spot where
  wording := .yaml
  located := true
  text := text
  flag := flag
  count := count
  optional := optional
  items := items
  record := record
  choice := choice
  parts := parts
  step := step
  label := label
  content := fun s => s.document.content s.depth s.node
  skip := fun _ => pure ()
  surplus := fun total n => .badLength total ("sequence of " ++ Schema.elements n)

def read {α : Type} (reader : Spot → Read α) (s : String) : Read α := do
  let d := Document.ofString s
  let v ← reader ⟨d, 0, d.root⟩
  if d.complete then return v else fail .malformed

end StorePolicy.YamlText

import StorePolicy.Decode.Fault
import StorePolicy.Yaml.Node.Grammar
import StorePolicy.Yaml.Scalar

/-!
# Values of YAML documents

Aliases are replaced by copies of their nodes, and scalars by what they spell. Nesting is
limited, and so is the number of aliases that are followed. A document as a value has
no repeated keys and may hold tags; the content of a part that is decoded later may
repeat keys but may not hold tags.
-/
namespace StorePolicy.Yaml

def maxDepth : Nat := 128

def aliasFactor : Nat := 100

inductive Purpose where
  | value
  | content
deriving DecidableEq

abbrev Counted := StateT Nat Read

def malformed {α : Type} : Counted α := fun _ => fail .malformed

def hasKey (k : Value) (entries : List (Value × Value)) : Bool := entries.any fun e => e.1.same k

def keyStep : Node → Step
  | .scalar _ _ s => .key s
  | _ => .unknown

def inStep {α : Type} (step : Step) (r : Counted α) : Counted α := fun n =>
  (r n).mapError (·.within step)

def readValue (d : Document) (p : Purpose) : Nat → Nat → Bool → Node → Counted Value
  | 0, _, _, _ => malformed
  | fuel + 1, depth, open_, n =>
    let tagged (tag : String) : Counted Value :=
      if p = .content then fun _ => .error ⟨.taggedContent, some []⟩
      else if tag = "" then malformed
      else do return .tagged tag (← readValue d p fuel depth true n)
    match n with
    | .absent => pure .null
    | .broken => malformed
    | .alias id => do
      let count ← get
      if aliasFactor * d.weight < count + 1 then malformed
      set (count + 1)
      match d.node? id with
      | some target => readValue d p fuel depth false target
      | none => malformed
    | .scalar tag style s =>
      match if open_ then none else localTag? tag with
      | some t => tagged t
      | none =>
        match scalarValue? (if open_ then none else tag) style s with
        | some v => pure v
        | none => malformed
    | .seq tag items =>
      match if open_ then none else localTag? tag with
      | some t => tagged t
      | none =>
        if maxDepth ≤ depth then malformed
        else do
          let vs ← items.zipIdx.mapM fun (item, i) =>
            inStep (.item i) (readValue d p fuel (depth + 1) false item)
          return .seq vs
    | .map tag entries =>
      match if open_ then none else localTag? tag with
      | some t => tagged t
      | none =>
        if maxDepth ≤ depth then malformed
        else do
          let es ← entries.foldlM (fun done e => do
            let k ← readValue d p fuel (depth + 1) false e.1
            if p = .value && hasKey k done then malformed
            let v ← inStep (keyStep e.1) (readValue d p fuel (depth + 1) false e.2)
            return (k, v) :: done) []
          return .map es.reverse

/-- More steps than any value within the limits needs. -/
def readFuel : Nat := 3 * maxDepth + 4

def Document.content (d : Document) (depth : Nat) (n : Node) : Read Value :=
  (readValue d .content readFuel depth false n).run' 0

def Document.value? (d : Document) : Option Value :=
  if d.complete then ((readValue d .value readFuel 0 false d.root).run' 0).toOption else none

def parse? (s : String) : Option Value := (Document.ofString s).value?

end StorePolicy.Yaml

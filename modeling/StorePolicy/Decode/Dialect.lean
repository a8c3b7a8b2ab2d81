import StorePolicy.Decode.Fault

/-!
# Forms of documents

A value of some type can be read from several forms of document: a JSON text, a JSON
value, a YAML text, a YAML value, or content that was set aside while its kind was not
yet known. They differ in what they accept for a text, a record or a choice, and in how
much a failure tells. A dialect says for one form how its parts are seen.
-/
namespace StorePolicy

/-- A part seen without knowing what it should be. -/
inductive Parts (ν : Type) where
  | items (vs : List ν)
  | entries (es : List (ν × ν))
  | other (found : Found)

inductive Label where
  | name (s : String)
  | index (n : Nat)

structure Entry (ν : Type) where
  label : Read Label
  step : Step
  value : ν

/-- A record is written as entries with labels, or as the values of its fields in order. -/
inductive Fields (ν : Type) where
  | named (es : List (Entry ν))
  | listed (vs : List ν)

structure Dialect (ν : Type) where
  wording : Wording
  located : Bool
  text : ν → Read String
  flag : ν → Read Bool
  count : ν → Read Nat
  optional : ν → Read (Option ν)
  items : ν → Read (List ν)
  record : String → ν → Read (Fields ν)
  choice : List String → ν → Read String
  parts : ν → Read (Parts ν)
  step : ν → Step
  label : String → ν → Read Label
  content : ν → Read Value
  skip : ν → Read Unit
  surplus : Nat → Nat → Fault

namespace Dialect

variable {ν : Type}

def failure (d : Dialect ν) (f : Fault) : Failure := ⟨f, if d.located then some [] else none⟩

def refuse {α : Type} (d : Dialect ν) (f : Fault) : Read α := .error (d.failure f)

def within {α : Type} (d : Dialect ν) (step : Step) (r : Read α) : Read α :=
  if d.located then r.mapError (·.within step) else r

def list {α : Type} (d : Dialect ν) (read : ν → Read α) (v : ν) : Read (List α) := do
  (← d.items v).zipIdx.mapM fun (item, i) => d.within (.item i) (read item)

def variant (d : Dialect ν) (known : List String) (v : ν) : Read String := do
  match ← d.label "variant identifier" v with
  | .name s => if known.contains s then return s else d.refuse (.unknownVariant s known)
  | .index n =>
    match known[n]? with
    | some s => return s
    | none =>
      d.refuse (.badValue (.int n) ("variant index 0 <= i < " ++ toString known.length))

end Dialect

def knownVariant (fail : Fault → Failure) (known : List String) (s : String) : Read String :=
  if known.contains s then .ok s else .error (fail (.unknownVariant s known))

end StorePolicy

import StorePolicy.Decode.Dialect

/-!
# Records

A record is read entry by entry in the order of the document. A label that names no
field is skipped, and one that names a field a second time is a fault. When all entries
are read, a field that is required and was not named is missing. A record written as a
row of values gives them to its fields in order.
-/
namespace StorePolicy

/-- A field of a record, filled into a draft. The first name is the one that faults show. -/
structure Field (ν δ : Type) where
  name : String
  aliases : List String
  required : Bool
  isSet : δ → Bool
  set : δ → ν → Read δ

namespace Field

def named {ν δ : Type} (f : Field ν δ) (s : String) : Bool := f.name == s || f.aliases.contains s

def of {ν δ α : Type} (name : String) (required : Bool) (get : δ → Option α) (put : δ → α → δ)
    (read : ν → Read α) : Field ν δ :=
  ⟨name, [], required, fun d => (get d).isSome, fun d v => (read v).map (put d)⟩

end Field

structure Schema (ν δ α : Type) where
  title : String
  fields : List (Field ν δ)
  start : δ
  build : δ → α

namespace Schema

variable {ν δ α : Type}

def field? (fields : List (Field ν δ)) : Label → Option (Field ν δ)
  | .name s => fields.find? (·.named s)
  | .index n => fields[n]?

def fill (d : Dialect ν) (fields : List (Field ν δ)) : List (Entry ν) → δ → Read δ
  | [], draft => pure draft
  | e :: rest, draft => do
    match field? fields (← e.label) with
    | none =>
      d.within e.step (d.skip e.value)
      fill d fields rest draft
    | some f =>
      if f.isSet draft then d.refuse (.duplicateField f.name)
      else fill d fields rest (← d.within e.step (f.set draft e.value))

def missing? (fields : List (Field ν δ)) (draft : δ) : Option String :=
  (fields.find? fun f => f.required && !f.isSet draft).map (·.name)

def elements (n : Nat) : String := toString n ++ (if n = 1 then " element" else " elements")

def deal (d : Dialect ν) (title : String) (index : Nat) :
    List (Field ν δ) → List ν → δ → Read δ
  | [], _, draft => pure draft
  | f :: fields, [], draft =>
    if f.required then d.refuse (.badLength index title)
    else deal d title (index + 1) fields [] draft
  | f :: fields, v :: vs, draft => do
    deal d title (index + 1) fields vs (← d.within (.item index) (f.set draft v))

def finish (s : Schema ν δ α) (d : Dialect ν) (draft : δ) : Read α :=
  match missing? s.fields draft with
  | some name => d.refuse (.missingField name)
  | none => pure (s.build draft)

def readNamed (s : Schema ν δ α) (d : Dialect ν) (es : List (Entry ν)) : Read α := do
  s.finish d (← fill d s.fields es s.start)

def readListed (s : Schema ν δ α) (d : Dialect ν) (vs : List ν) : Read α := do
  let n := s.fields.length
  let draft ← deal d (s.title ++ " with " ++ elements n) 0 s.fields vs s.start
  if n < vs.length then d.refuse (d.surplus vs.length n) else pure (s.build draft)

def read (s : Schema ν δ α) (d : Dialect ν) (v : ν) : Read α := do
  match ← d.record s.title v with
  | .named es => s.readNamed d es
  | .listed vs => s.readListed d vs

end Schema
end StorePolicy

import StorePolicy.Json.Printer
import StorePolicy.Text.Quoted

/-!
# Faults of documents

Why a document does not read as a value of some type. A text that is malformed has no
further message; every other fault says what was found and what was expected. In some
formats the message also names the place of the fault in the document.
-/
namespace StorePolicy

inductive Wording where
  | json
  | yaml
deriving DecidableEq

inductive Found where
  | null
  | absent
  | bool (b : Bool)
  | int (i : Int)
  | float (d : Double)
  | str (s : String)
  | seq
  | map
  | choice

namespace Found

def text (w : Wording) : Found → String
  | .null => match w with
    | .json => "null"
    | .yaml => "unit value"
  | .absent => "Option value"
  | .bool b => "boolean `" ++ (if b then "true" else "false") ++ "`"
  | .int i => "integer `" ++ toString i ++ "`"
  | .float d =>
    let t := match w with
      | .json => Json.floatText d
      | .yaml => Decimal.plainText d
    "floating point `" ++ t ++ "`"
  | .str s => "string " ++ Text.quoted s
  | .seq => "sequence"
  | .map => "map"
  | .choice => "enum"

def ofValue : Value → Found
  | .null => .null
  | .bool b => .bool b
  | .int i => .int i
  | .float d => .float d
  | .str s => .str s
  | .seq _ => .seq
  | .map _ => .map
  | .tagged _ _ => .choice

end Found

inductive Fault where
  | malformed
  | mismatch (found : Found) (expected : String)
  | badValue (found : Found) (expected : String)
  | badLength (count : Nat) (expected : String)
  | missingField (name : String)
  | duplicateField (name : String)
  | unknownVariant (name : String) (known : List String)
  | taggedContent

def ticked (s : String) : String := "`" ++ s ++ "`"

namespace Fault

def message (w : Wording) : Fault → String
  | .malformed => ""
  | .mismatch found expected => "invalid type: " ++ found.text w ++ ", expected " ++ expected
  | .badValue found expected => "invalid value: " ++ found.text w ++ ", expected " ++ expected
  | .badLength count expected => "invalid length " ++ toString count ++ ", expected " ++ expected
  | .missingField name => "missing field " ++ ticked name
  | .duplicateField name => "duplicate field " ++ ticked name
  | .unknownVariant name known =>
    "unknown variant " ++ ticked name ++ ", expected " ++
      (match known with
      | [] => "there are no variants"
      | [a] => ticked a
      | [a, b] => ticked a ++ " or " ++ ticked b
      | _ => "one of " ++ ", ".intercalate (known.map ticked))
  | .taggedContent => "untagged and internally tagged enums do not support enum input"

def expecting (expected : String) : Fault → Fault
  | .mismatch found _ => .mismatch found expected
  | f => f

end Fault

inductive Step where
  | key (name : String)
  | item (index : Nat)
  | unknown

abbrev Place := List Step

namespace Place

def textFrom (done : String) : Place → String
  | [] => done
  | .item i :: rest => textFrom ((if done = "" then "." else done) ++ "[" ++ toString i ++ "]") rest
  | .key k :: rest => textFrom (if done = "" then k else done ++ "." ++ k) rest
  | .unknown :: rest => textFrom (if done = "" then "?" else done ++ ".?") rest

def text (p : Place) : String := textFrom "" p

end Place

structure Failure where
  fault : Fault
  place : Option Place

namespace Failure

def ofFault (f : Fault) : Failure := ⟨f, none⟩

/-- The failure as the collection around it sees it: a fault without a place is laid to the
collection itself. -/
def within (step : Step) (f : Failure) : Failure :=
  match f.place with
  | some p => { f with place := some (step :: p) }
  | none => { f with place := some [] }

def expecting (expected : String) (f : Failure) : Failure :=
  { f with fault := f.fault.expecting expected }

def isMalformed (f : Failure) : Bool :=
  match f.fault with
  | .malformed => true
  | _ => false

def message (w : Wording) (f : Failure) : String :=
  match f.place with
  | none => f.fault.message w
  | some p =>
    let t := p.text
    if t = "" then f.fault.message w else t ++ ": " ++ f.fault.message w

end Failure

abbrev Read := Except Failure

def fail {α : Type} (f : Fault) : Read α := .error (.ofFault f)

end StorePolicy

import StorePolicy.Decimal.Double

/-!
# Values of documents

A document of any format is read into one kind of tree: null, booleans, integers,
doubles, texts, sequences, mappings with keys of any kind in the order of the
document, and values under a tag. `same` is equality of values as the program
compares them: doubles as numbers, mappings whatever the order of their keys.
-/
namespace StorePolicy

inductive Value where
  | null
  | bool (b : Bool)
  | int (i : Int)
  | float (d : Double)
  | str (s : String)
  | seq (items : List Value)
  | map (entries : List (Value × Value))
  | tagged (tag : String) (value : Value)
deriving Inhabited

namespace Value

def size : Value → Nat
  | .seq items => 1 + sizes items
  | .map entries => 1 + entrySizes entries
  | .tagged _ v => 1 + size v
  | _ => 1
where
  sizes : List Value → Nat
    | [] => 0
    | v :: rest => size v + sizes rest
  entrySizes : List (Value × Value) → Nat
    | [] => 0
    | (k, v) :: rest => size k + size v + entrySizes rest

mutual
def same : Value → Value → Bool
  | .null, .null => true
  | .bool a, .bool b => a == b
  | .int a, .int b => a == b
  | .float a, .float b => a.same b
  | .str a, .str b => a == b
  | .seq as, .seq bs => sameItems as bs
  | .map as, .map bs => as.length == bs.length && sameEntries as bs
  | .tagged s a, .tagged t b => s == t && same a b
  | _, _ => false

def sameItems : List Value → List Value → Bool
  | [], [] => true
  | a :: as, b :: bs => same a b && sameItems as bs
  | _, _ => false

def sameEntries : List (Value × Value) → List (Value × Value) → Bool
  | [], _ => true
  | (k, v) :: rest, bs => bs.any (fun e => same k e.1 && same v e.2) && sameEntries rest bs
end

def isNull : Value → Bool
  | .null => true
  | .tagged _ v => isNull v
  | _ => false

def untagged : Value → Value
  | .tagged _ v => untagged v
  | v => v

def asText? : Value → Option String
  | .str s => some s
  | .tagged _ v => asText? v
  | _ => none

def entries? : Value → Option (List (Value × Value))
  | .map entries => some entries
  | .tagged _ v => entries? v
  | _ => none

def items? : Value → Option (List Value)
  | .seq items => some items
  | .tagged _ v => items? v
  | _ => none

end Value

def lookupKey (key : String) : List (Value × Value) → Option Value
  | [] => none
  | (.str k, v) :: rest => if k = key then some v else lookupKey key rest
  | _ :: rest => lookupKey key rest

namespace Value

def get? (v : Value) (key : String) : Option Value := v.entries?.bind (lookupKey key)

end Value
end StorePolicy

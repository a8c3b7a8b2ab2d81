import StorePolicy.Value

/-!
# JSON values

Numbers are integers of 64 bits or finite doubles. The members of an object stand in
the order in which they are written; objects that are read are sorted by key and hold
each key once. Every JSON value has an image among the values of documents.
-/
namespace StorePolicy

inductive Json where
  | null
  | bool (b : Bool)
  | int (i : Int)
  | float (d : Double)
  | str (s : String)
  | arr (items : List Json)
  | obj (members : List (String × Json))
deriving Inhabited

namespace Json

def isNull : Json → Bool
  | .null => true
  | _ => false

def members? : Json → Option (List (String × Json))
  | .obj ms => some ms
  | _ => none

def items? : Json → Option (List Json)
  | .arr items => some items
  | _ => none

def get? (j : Json) (key : String) : Option Json := j.members?.bind (·.lookup key)

mutual
def same : Json → Json → Bool
  | .null, .null => true
  | .bool a, .bool b => a == b
  | .int a, .int b => a == b
  | .float a, .float b => a.same b
  | .str a, .str b => a == b
  | .arr as, .arr bs => sameItems as bs
  | .obj as, .obj bs => sameMembers as bs
  | _, _ => false

def sameItems : List Json → List Json → Bool
  | [], [] => true
  | a :: as, b :: bs => same a b && sameItems as bs
  | _, _ => false

def sameMembers : List (String × Json) → List (String × Json) → Bool
  | [], [] => true
  | (k, a) :: as, (l, b) :: bs => k == l && same a b && sameMembers as bs
  | _, _ => false
end

mutual
/-- The same value as a document: objects become mappings with text keys. -/
def toValue : Json → Value
  | .null => .null
  | .bool b => .bool b
  | .int i => .int i
  | .float d => .float d
  | .str s => .str s
  | .arr items => .seq (toValues items)
  | .obj members => .map (toEntries members)

def toValues : List Json → List Value
  | [] => []
  | j :: rest => toValue j :: toValues rest

def toEntries : List (String × Json) → List (Value × Value)
  | [] => []
  | (k, j) :: rest => (.str k, toValue j) :: toEntries rest
end

def insertMember (key : String) (value : Json) : List (String × Json) → List (String × Json)
  | [] => [(key, value)]
  | (k, v) :: rest =>
    if key = k then (key, value) :: rest
    else if key < k then (key, value) :: (k, v) :: rest
    else (k, v) :: insertMember key value rest

/-- Members in the order of their keys; of a repeated key the last value stays. -/
def sortMembers (members : List (String × Json)) : List (String × Json) :=
  members.foldl (fun acc m => insertMember m.1 m.2 acc) []

theorem get?_toEntries (key : String) (ms : List (String × Json)) :
    lookupKey key (toEntries ms) = (ms.lookup key).map toValue := by
  induction ms with
  | nil => rfl
  | cons m rest ih =>
    obtain ⟨k, j⟩ := m
    by_cases h : k = key
    · subst h; simp [toEntries, lookupKey]
    · have : (key == k) = false := by simpa using fun e => h e.symm
      simp [toEntries, lookupKey, h, List.lookup_cons, this, ih]

end Json
end StorePolicy

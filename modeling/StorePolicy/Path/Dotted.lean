import StorePolicy.Json.Value
import StorePolicy.Text.Blank

/-!
# Dotted paths

A dotted path is a list of keys between points. A leading `$.` or `$` names the root and
is dropped, and so are blank parts and parts that are just `$`. Following the keys leads
through nested objects, or through nested mappings of a document, to one value.
-/
namespace StorePolicy.Path

def splitDots : List Char → List (List Char)
  | [] => [[]]
  | c :: rest =>
    if c = '.' then [] :: splitDots rest
    else
      match splitDots rest with
      | [] => [[c]]
      | part :: parts => (c :: part) :: parts

def dropRoot (cs : List Char) : List Char :=
  let cs := match cs with
    | '$' :: '.' :: rest => rest
    | _ => cs
  match cs with
  | '$' :: rest => rest
  | _ => cs

def isKey (part : List Char) : Bool := !part.isEmpty && part != ['$']

def keysOf (cs : List Char) : List (List Char) :=
  ((splitDots (dropRoot (Text.trim cs))).map Text.trim).filter isKey

def keys (path : String) : List String := (keysOf path.toList).map String.ofList

def follow : List String → Json → Option Json
  | [], j => some j
  | k :: rest, j => (j.get? k).bind (follow rest)

def walk (j : Json) (path : String) : Option Json := follow (keys path) j

def followEntries : List String → Value → Option Value
  | [], v => some v
  | k :: rest, v => (v.get? k).bind (followEntries rest)

def walkEntries (v : Value) (path : String) : Option Value := followEntries (keys path) v

theorem splitDots_ne_nil (cs : List Char) : splitDots cs ≠ [] := by
  cases cs with
  | nil => simp [splitDots]
  | cons c rest =>
    unfold splitDots
    split
    · simp
    · split <;> simp

end StorePolicy.Path

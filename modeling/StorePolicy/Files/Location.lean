/-!
# Paths as texts

A path is a text of parts between slashes. It is absolute if it begins with a slash.
Empty parts and points count for nothing between other parts, except for a point at the
beginning. A path is contained if it is relative and never climbs.
-/
namespace StorePolicy.Files

def splitSlashes : List Char → List (List Char)
  | [] => [[]]
  | c :: rest =>
    if c = '/' then [] :: splitSlashes rest
    else
      match splitSlashes rest with
      | [] => [[c]]
      | part :: parts => (c :: part) :: parts

def joinSlashes : List (List Char) → List Char
  | [] => []
  | [part] => part
  | part :: rest => part ++ '/' :: joinSlashes rest

namespace Location

def isAbsolute (path : String) : Bool := path.toList.head? = some '/'

def join (base path : String) : String :=
  if isAbsolute path || base.isEmpty then path
  else if base.toList.getLast? = some '/' then base ++ path
  else base ++ "/" ++ path

inductive Component where
  | root
  | here
  | up
  | name (s : String)
deriving DecidableEq

def isIdle (part : List Char) : Bool := part = [] || part = ['.']

def ofPart (part : List Char) : Component :=
  if part = ['.', '.'] then .up else .name (String.ofList part)

def front (cs : List Char) : Option Component × List (List Char) :=
  match splitSlashes cs with
  | [] => (none, [])
  | first :: rest =>
    if cs.head? = some '/' then (some .root, rest)
    else if first = ['.'] then (some .here, rest)
    else (none, first :: rest)

def components (path : String) : List Component :=
  let (first, parts) := front path.toList
  first.toList ++ (parts.filter fun p => !isIdle p).map ofPart

def Component.isInside : Component → Bool
  | .here => true
  | .name _ => true
  | .root => false
  | .up => false

def isContained (path : String) : Bool := (components path).all Component.isInside

def trimIdle (parts : List (List Char)) : List (List Char) :=
  (parts.reverse.dropWhile isIdle).reverse

def frontText : Option Component → List Char
  | some .root => ['/']
  | some .here => ['.']
  | _ => []

def assemble (first : Option Component) (parts : List (List Char)) : String :=
  String.ofList (match first, parts with
    | some .here, _ :: _ => '.' :: '/' :: joinSlashes parts
    | first, parts => frontText first ++ joinSlashes parts)

def parent? (path : String) : Option String :=
  let (first, parts) := front path.toList
  match trimIdle parts with
  | [] => if first = some .here then some "" else none
  | kept => some (assemble first (trimIdle kept.dropLast))

def ancestors (path : String) : Nat → List String
  | 0 => [path]
  | n + 1 =>
    match parent? path with
    | some p => path :: ancestors p n
    | none => [path]

def fileName? (path : String) : Option String :=
  match (components path).getLast? with
  | some (.name s) => some s
  | _ => none

def extension? (path : String) : Option String := do
  let cs := (← fileName? path).toList
  let after := (cs.reverse.takeWhile (· ≠ '.')).reverse
  if after.length + 1 < cs.length then return String.ofList after else none

def withFileName (path name : String) : String :=
  match fileName? path, parent? path with
  | some _, some p => join p name
  | _, _ => join path name

theorem join_absolute (base path : String) (h : isAbsolute path = true) :
    join base path = path := by simp [join, h]

end Location
end StorePolicy.Files

import StorePolicy.Files.Tree
import StorePolicy.Trace

/-!
# Patterns for paths

A pattern for paths has a part for each name. In a part a question mark stands for any
character, a star for any text, and brackets for one of the characters in them, or for any
other if they begin with an exclamation mark. Two stars stand for any number of folders. The
names in a folder are taken in their order, and a folder comes before what is in it.
-/
namespace StorePolicy.Files

inductive NameToken where
  | char (c : Char)
  | any
  | text
  | among (negated : Bool) (ranges : List (Char × Char))
deriving DecidableEq

namespace NameToken

def ranges : List Char → List (Char × Char)
  | a :: '-' :: b :: rest => (a, b) :: ranges rest
  | a :: rest => (a, a) :: ranges rest
  | [] => []

def inside? : List Char → Option (List Char × List Char)
  | [] => none
  | first :: rest =>
    match rest.dropWhile (· ≠ ']') with
    | [] => none
    | _ :: after => some (first :: rest.takeWhile (· ≠ ']'), after)

theorem length_after_inside {cs inside after : List Char} (h : inside? cs = some (inside, after)) :
    after.length < cs.length := by
  cases cs with
  | nil => simp [inside?] at h
  | cons first rest =>
    have hle : (rest.dropWhile (· ≠ ']')).length ≤ rest.length :=
      (List.dropWhile_suffix _).sublist.length_le
    simp only [inside?] at h
    split at h
    · simp at h
    · rename_i heq
      simp only [Option.some.injEq, Prod.mk.injEq] at h
      rw [heq, h.2] at hle
      simp only [List.length_cons] at hle ⊢
      omega

def ofChars? (cs : List Char) : Option (List NameToken) :=
  match cs with
  | [] => some []
  | '?' :: rest => (ofChars? rest).map (.any :: ·)
  | '*' :: '*' :: _ => none
  | '*' :: rest => (ofChars? rest).map (.text :: ·)
  | '[' :: '!' :: rest =>
    match _h : inside? rest with
    | none => none
    | some (inside, after) => (ofChars? after).map (.among true (ranges inside) :: ·)
  | '[' :: rest =>
    match _h : inside? rest with
    | none => none
    | some (inside, after) => (ofChars? after).map (.among false (ranges inside) :: ·)
  | c :: rest => (ofChars? rest).map (.char c :: ·)
termination_by cs.length
decreasing_by
  · simp
  · simp
  · have h := length_after_inside ‹_›
    simp only [List.length_cons]
    omega
  · have h := length_after_inside ‹_›
    simp only [List.length_cons]
    omega
  · simp

def accepts (c : Char) : NameToken → Bool
  | .char d => c == d
  | .any => true
  | .text => false
  | .among negated ranges => (ranges.any fun r => r.1 ≤ c && c ≤ r.2) != negated

def char? : NameToken → Option Char
  | .char c => some c
  | _ => none

def matchesAll : List NameToken → List Char → Bool
  | [], cs => cs.isEmpty
  | .text :: rest, [] => matchesAll rest []
  | .text :: rest, c :: cs => matchesAll rest (c :: cs) || matchesAll (.text :: rest) cs
  | _ :: _, [] => false
  | token :: rest, c :: cs => token.accepts c && matchesAll rest cs
termination_by tokens cs => tokens.length + cs.length

end NameToken

inductive PathPart where
  | folders
  | name (tokens : List NameToken)
deriving DecidableEq

namespace PathPart

def ofChars? (cs : List Char) : Option PathPart :=
  if cs = ['*', '*'] then some .folders else (NameToken.ofChars? cs).map .name

def literal? : PathPart → Option String
  | .folders => none
  | .name tokens => (tokens.mapM NameToken.char?).map String.ofList

def accepts (name : String) : PathPart → Bool
  | .folders => true
  | .name tokens => NameToken.matchesAll tokens name.toList

def upward (part : PathPart) : List String :=
  match part with
  | .name (.char '.' :: _) => ["..", "."].filter part.accepts
  | _ => []

end PathPart

structure PathPattern where
  absolute : Bool
  parts : List PathPart

namespace PathPattern

def splitParts (cs : List Char) : List (List Char) :=
  match cs.getLast? with
  | some '/' => (splitSlashes cs).dropLast
  | _ => splitSlashes cs

def parse? (pattern : String) : Option PathPattern := do
  let absolute := Location.isAbsolute pattern
  let parts ← (splitParts (pattern.toList.drop (if absolute then 1 else 0))).mapM PathPart.ofChars?
  return ⟨absolute, parts⟩

def enter (folder name : String) : String :=
  if folder = "." then name else Location.join folder name

def visit (t : FileTree) (further : String → List PathPart → Traced (List String))
    (path name : String) (parts : List PathPart) : Traced (List String) := do
  let left := parts.dropWhile (· = .folders)
  let own ← match left with
    | [] => pure []
    | [part] => pure (if part.accepts name then [path] else [])
    | part :: rest => if part.accepts name then further path rest else pure []
  if parts.head? = some .folders then
    Traced.noteLocated path
    if t.isFolder path then
      let inside ← further path (.folders :: left)
      return (if left.isEmpty then [path] else own) ++ inside
    else return own
  else return own

def search (t : FileTree) : Nat → String → List PathPart → Traced (List String)
  | 0, _, _ => pure []
  | _, _, [] => pure []
  | depth + 1, folder, part :: rest => do
    let finish (path : String) : Traced (List String) :=
      if rest.isEmpty then pure [path] else search t depth path rest
    match part.literal? with
    | some name =>
      let path := enter folder name
      Traced.noteLocated path
      if t.exists? path then finish path else pure []
    | none =>
      Traced.noteListed folder
      if t.isFolder folder then
        let upward ← part.upward.mapM fun name => finish (Location.join folder name)
        let names := (t.namesIn folder).mergeSort fun a b => a ≤ b
        let found ← names.mapM fun name => visit t (search t depth) (enter folder name) name (part :: rest)
        return (upward ++ found).flatten
      else pure []

def folders (t : FileTree) (p : PathPattern) : Traced (List String) := do
  let found ← search t (maxPathBytes + p.parts.length + 1) (if p.absolute then "/" else ".") p.parts
  return found.filter t.isFolder

end PathPattern
end StorePolicy.Files

import StorePolicy.Files.Location

/-!
# Trees of files

A tree of files is a list of entries by their place, the list of names from the top, and a
directory that relative paths start from. An entry is a file with its bytes, a folder or a
link with the text of its path. A path is followed part by part; a link on the way is
replaced by its text, and only so many links are followed. What a path leads to is given by
its place, which has no links in it.
-/
namespace StorePolicy

abbrev FilePlace := List String

inductive FileEntry where
  | file (content : ByteArray)
  | folder
  | link (text : String)

structure FileTree where
  entries : List (FilePlace × FileEntry)
  workDir : FilePlace

namespace Files

inductive Fault where
  | notFound
  | notFolder
  | isFolder
  | exists
  | tooManyLinks
  | nameTooLong
  | invalidPath
  | notText
deriving DecidableEq

def Fault.message : Fault → String
  | .notFound => "No such file or directory"
  | .notFolder => "Not a directory"
  | .isFolder => "Is a directory"
  | .exists => "File exists"
  | .tooManyLinks => "Too many levels of symbolic links"
  | .nameTooLong => "File name too long"
  | .invalidPath => "file name contained an unexpected NUL byte"
  | .notText => "stream did not contain valid UTF-8"

inductive Move where
  | here
  | up
  | down (name : String)
deriving DecidableEq

def Move.ofPart (part : List Char) : Move :=
  if part = [] || part = ['.'] then .here
  else if part = ['.', '.'] then .up
  else .down (String.ofList part)

def moves (path : String) : List Move := (splitSlashes path.toList).map Move.ofPart

def maxLinks : Nat := 40
def maxNameBytes : Nat := 255
def maxPathBytes : Nat := 4095

def refuses (path : String) : Option Fault :=
  if path.isEmpty then some .notFound
  else if path.toList.contains '\x00' then some .invalidPath
  else if maxPathBytes < path.utf8ByteSize then some .nameTooLong
  else none

end Files

namespace FileTree
open Files

def entry? (t : FileTree) (place : FilePlace) : Option FileEntry :=
  if place = [] then some .folder else t.entries.lookup place

def isFolderAt (t : FileTree) (place : FilePlace) : Bool :=
  match t.entry? place with
  | some .folder => true
  | _ => false

def start (t : FileTree) (path : String) : FilePlace := if Location.isAbsolute path then [] else t.workDir

/-- Follows moves from a place without links. With `create` the last name may be missing. -/
def follow (t : FileTree) (create : Bool) (links : Nat) (place : FilePlace) :
    List Move → Except Fault FilePlace
  | [] => .ok place
  | move :: rest =>
    if !t.isFolderAt place then .error .notFolder
    else
      match move with
      | .here => follow t create links place rest
      | .up => follow t create links place.dropLast rest
      | .down name =>
        if maxNameBytes < name.utf8ByteSize then .error .nameTooLong
        else
          let next := place ++ [name]
          match t.entry? next with
          | none => if create && rest.isEmpty then .ok next else .error .notFound
          | some (.link text) =>
            match links with
            | 0 => .error .tooManyLinks
            | links + 1 =>
              follow t create links (if Location.isAbsolute text then [] else place) (moves text ++ rest)
          | some _ => follow t create links next rest
termination_by moves => (links, moves.length)

def resolve (t : FileTree) (path : String) : Except Fault FilePlace :=
  match refuses path with
  | some f => .error f
  | none => t.follow false maxLinks (t.start path) (moves path)

/-- The place that a path leads to, or where the file that it names would be made. -/
def resolveNew (t : FileTree) (path : String) : Except Fault FilePlace :=
  match refuses path with
  | some f => .error f
  | none => t.follow true maxLinks (t.start path) (moves path)

def stat (t : FileTree) (path : String) : Except Fault FileEntry := do
  match t.entry? (← t.resolve path) with
  | some e => return e
  | none => throw .notFound

def exists? (t : FileTree) (path : String) : Bool := (t.stat path).isOk

def isFolder (t : FileTree) (path : String) : Bool :=
  match t.stat path with
  | .ok .folder => true
  | _ => false

def readBytes (t : FileTree) (path : String) : Except Fault ByteArray := do
  match ← t.stat path with
  | .file content => return content
  | .folder => throw .isFolder
  | .link _ => throw .tooManyLinks

def readText (t : FileTree) (path : String) : Except Fault String := do
  match String.fromUTF8? (← t.readBytes path) with
  | some s => return s
  | none => throw .notText

def namesAt (t : FileTree) (place : FilePlace) : List String :=
  t.entries.filterMap fun e => if e.1.dropLast = place then e.1.getLast? else none

def namesIn (t : FileTree) (path : String) : List String :=
  match t.resolve path with
  | .ok place => t.namesAt place
  | .error _ => []

end FileTree
end StorePolicy

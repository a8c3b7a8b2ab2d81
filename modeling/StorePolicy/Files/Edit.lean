import StorePolicy.Files.Tree

/-!
# Changing trees of files

Files are written, copied and removed, and folders are made. Writing goes through links; a
link that leads nowhere is written where it points to.
-/
namespace StorePolicy.FileTree
open Files

def put (t : FileTree) (place : FilePlace) (e : FileEntry) : FileTree :=
  if (t.entries.lookup place).isSome then
    { t with entries := t.entries.map fun p => if p.1 = place then (place, e) else p }
  else { t with entries := t.entries ++ [(place, e)] }

def writeBytes (t : FileTree) (path : String) (content : ByteArray) : Except Fault FileTree := do
  let place ← t.resolveNew path
  match t.entry? place with
  | some .folder => throw .isFolder
  | _ => return t.put place (.file content)

def writeText (t : FileTree) (path content : String) : Except Fault FileTree :=
  t.writeBytes path content.toUTF8

def copy (t : FileTree) (source target : String) : Except Fault FileTree := do
  t.writeBytes target (← t.readBytes source)

def enclosing (t : FileTree) (path : String) : Except Fault (FilePlace × String) :=
  match refuses path with
  | some f => .error f
  | none =>
    match (moves path).getLast? with
    | some (.down name) => do
      let place ← t.follow false maxLinks (t.start path) (moves path).dropLast
      if t.isFolderAt place then return (place, name) else throw .notFolder
    | _ => .error .invalidPath

def makeFolder (t : FileTree) (path : String) : Except Fault FileTree :=
  if t.isFolder path || path.isEmpty then .ok t
  else do
    let (place, name) ← t.enclosing path
    match t.entry? (place ++ [name]) with
    | some _ => throw .exists
    | none => return t.put (place ++ [name]) .folder

def makeLink (t : FileTree) (path text : String) : Except Fault FileTree := do
  let (place, name) ← t.enclosing path
  match t.entry? (place ++ [name]) with
  | some _ => throw .exists
  | none => return t.put (place ++ [name]) (.link text)

def makeFolders (t : FileTree) (path : String) : Except Fault FileTree :=
  (Location.ancestors path path.length).reverse.foldlM makeFolder t

def remove (t : FileTree) (path : String) : Except Fault FileTree := do
  let (place, name) ← t.enclosing path
  match t.entry? (place ++ [name]) with
  | none => throw .notFound
  | some .folder => throw .isFolder
  | some _ => return { t with entries := t.entries.filter (·.1 ≠ place ++ [name]) }

end StorePolicy.FileTree

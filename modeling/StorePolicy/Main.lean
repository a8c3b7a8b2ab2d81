import Std.Time
import StorePolicy.CommandLine.Run

/-!
# The program

A command is run on what it looks at: its trace tells which paths of the file system to read
into the tree of files, until it looks at nothing new. Then the files that it changed are
written, and its lines are printed.
-/
namespace StorePolicy.Program

open Files

def absolute (place : FilePlace) : String := "/" ++ "/".intercalate place

def placeOf (path : String) : FilePlace :=
  ((splitSlashes path.toList).filter (· ≠ [])).map String.ofList

def putBelow (t : FileTree) (place : FilePlace) (e : FileEntry) : FileTree :=
  let above := ((List.range place.length).map place.take).drop 1
  (above.foldl (fun t p => t.put p .folder) t).put place e

def realPlace? (place : FilePlace) : IO (Option FilePlace) := do
  try return some (placeOf (← IO.FS.realPath (absolute place)).toString)
  catch _ => return none

def entryAt (reading : Bool) (place : FilePlace) : IO FileEntry := do
  if ← (← IO.FS.realPath (absolute place)).isDir then return .folder
  else if reading then return .file (← IO.FS.readBinFile (absolute place))
  else return .file .empty

def addPlace (reading : Bool) (t : FileTree) (place : FilePlace) : IO FileTree := do
  if (t.entry? place).isSome && !reading then return t
  try return putBelow t place (← entryAt reading place)
  catch _ => return t

def addMoves (reading : Bool) (t : FileTree) (place : FilePlace) : List Move → IO FileTree
  | [] => pure t
  | .here :: rest => addMoves reading t place rest
  | .up :: rest => addMoves reading t place.dropLast rest
  | .down name :: rest => do
    match ← realPlace? (place ++ [name]) with
    | none => return t
    | some real =>
      let t := if real = place ++ [name] then t else putBelow t (place ++ [name]) (.link (absolute real))
      let t ← addPlace (reading && rest.isEmpty) t real
      addMoves reading t real rest

def addPath (reading : Bool) (t : FileTree) (path : String) : IO FileTree :=
  addMoves reading t (t.start path) (moves path)

def addFolder (t : FileTree) (folder : String) : IO FileTree := do
  let t ← addPath false t folder
  match t.resolve folder with
  | .error _ => return t
  | .ok place =>
    try
      let found ← (← IO.FS.realPath (absolute place)).readDir
      found.foldlM (fun t e => addMoves false t place [.down e.fileName]) t
    catch _ => return t

def look (t : FileTree) : Event → IO FileTree
  | .logged _ => pure t
  | .located path => addPath false t path
  | .opened path => addPath true t path
  | .listed folder => addFolder t folder

def isLook : Event → Bool
  | .logged _ => false
  | _ => true

/-- Runs on more and more of the file system until nothing new is looked at. -/
partial def settle (run : FileTree → Traced CommandLine.Outcome) (seen : List Event) (t : FileTree) :
    IO (FileTree × Traced CommandLine.Outcome) := do
  let result := run t
  let fresh := (result.trace.filter fun e => isLook e && !seen.contains e).eraseDups
  if fresh.isEmpty then return (t, result)
  settle run (fresh ++ seen) (← fresh.foldlM look t)

def writeChanges (old new : FileTree) : IO Unit :=
  new.entries.forM fun (place, e) => do
    match e, old.entry? place with
    | .folder, none => IO.FS.createDirAll (absolute place)
    | .file content, some (.file known) =>
      if content != known then IO.FS.writeBinFile (absolute place) content
    | .file content, _ => IO.FS.writeBinFile (absolute place) content
    | _, _ => pure ()

def readClock : IO Clock := do
  let now ← Std.Time.PlainDateTime.now
  return ⟨now.format "uuuu-MM-dd", now.format "uuuuMMdd_HHmmss"⟩

def isShown (verbose : Bool) (l : Log.Line) : Bool :=
  match l.level with
  | .error => true
  | .warn => true
  | .info => verbose
  | _ => false

def isVerbose (args : List String) : Bool :=
  match CommandLine.Request.read args with
  | .ok (.command shared _) => shared.verbose
  | _ => false

def run (args : List String) : IO UInt32 := do
  let began ← IO.monoMsNow
  let workDir := placeOf (← IO.FS.realPath ".").toString
  let start := putBelow ⟨[], workDir⟩ workDir .folder
  let env : CommandLine.Environment :=
    ⟨← IO.getEnv "HOME", ← readClock, ← (← IO.getStdout).isTty, 0⟩
  let (files, _) ← settle (fun t => CommandLine.run t env args) [] start
  let elapsed := (← IO.monoMsNow) - began
  let result := CommandLine.run files { env with elapsed := elapsed } args
  let outcome := result.value
  (result.lines.filter (isShown (isVerbose args))).forM fun l =>
    IO.eprintln (l.level.name ++ " " ++ l.message)
  writeChanges files outcome.files
  IO.print outcome.output
  outcome.remarks.forM fun r => IO.eprintln r
  return outcome.code.toUInt32

end StorePolicy.Program

def main (args : List String) : IO UInt32 := do
  try StorePolicy.Program.run args
  catch e =>
    IO.eprintln ("error: " ++ toString e)
    return 1

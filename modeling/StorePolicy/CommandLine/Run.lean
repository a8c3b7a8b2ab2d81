import StorePolicy.Candidate.DryRun
import StorePolicy.CommandLine.Command
import StorePolicy.Config.File
import StorePolicy.Files.PathPattern
import StorePolicy.Merge.File
import StorePolicy.RuleSet.Audit

/-!
# Running commands

A command works on a tree of files. It prints lines, may leave the tree changed, and ends
with an exit code. What stops it is told apart from what it prints, and then the code is one;
arguments that are not understood give the code two.

A project is named by the path of its folder, or by a pattern for such paths. A pattern has
to match some folder.
-/
namespace StorePolicy.CommandLine

inductive ProjectFault where
  | invalidPattern (pattern : String)
  | noMatch (pattern : String)
deriving DecidableEq

def ProjectFault.message : ProjectFault → String
  | .invalidPattern pattern => "invalid pattern '" ++ pattern ++ "'"
  | .noMatch pattern => "no project directory matches '" ++ pattern ++ "'"

def foldersNamed (t : FileTree) (pattern : String) : Traced (Except ProjectFault (List String)) := do
  Traced.noteLocated pattern
  if t.isFolder pattern then return .ok [pattern]
  else
    match Files.PathPattern.parse? pattern with
    | none => return .error (.invalidPattern pattern)
    | some p =>
      let found ← p.folders t
      return if found.isEmpty then .error (.noMatch pattern) else .ok found

def projectFolders (t : FileTree) : List String → Traced (Except ProjectFault (List String))
  | [] => pure (.ok [])
  | pattern :: rest => do
    match ← foldersNamed t pattern with
    | .error f => return .error f
    | .ok found =>
      match ← projectFolders t rest with
      | .error f => return .error f
      | .ok more => return .ok (found ++ more)

structure Environment where
  home : Option String
  clock : Clock
  terminal : Bool
  /-- Milliseconds that the check of a project takes. -/
  elapsed : Nat

inductive Fault where
  | config (path : Option String) (f : Config.LoadFault)
  | projects (f : ProjectFault)
  | ruleSet (path : String) (f : RuleSet.LoadFault)
  | unreadable (path : String) (f : Files.Fault)
  | merge (f : Merge.Fault)

def Fault.message : Fault → String
  | .config (some path) f => "cannot load configuration " ++ path ++ ": " ++ f.message
  | .config none f => "cannot load configuration: " ++ f.message
  | .projects f => f.message
  | .ruleSet path f => "cannot load " ++ path ++ ": " ++ f.message
  | .unreadable path f => "cannot read " ++ path ++ ": " ++ f.message
  | .merge f => f.message

/-- What a command does: the printed text, remarks apart from it, the code, the files. -/
structure Outcome where
  output : String
  remarks : List String
  code : Nat
  files : FileTree

namespace Outcome

def lines (t : FileTree) (code : Nat) (ls : List String) : Outcome :=
  ⟨String.join (ls.map (· ++ "\n")), [], code, t⟩

def stopped (t : FileTree) (f : Fault) : Outcome := ⟨"", ["error: " ++ f.message], 1, t⟩

def misused (t : FileTree) (f : UsageFault) : Outcome := ⟨"", ["error: " ++ f.message], 2, t⟩

end Outcome

open Report

def exitStatus (ss : List CheckSummary) : Nat := (ss.map (·.exitCode)).foldl max 0

def reportText (format : ReportFormat) (colored : Bool) (ss : List CheckSummary) : String :=
  match format with
  | .text => { TextStyle.usual with colored := colored }.summaries ss
  | .json => jsonText true (summariesJson ss)

def runCheck (t : FileTree) (env : Environment) (colored : Bool) (c : Config) (r : CheckRequest) :
    Traced Outcome := do
  match ← projectFolders t r.projects with
  | .error f => return .stopped t (.projects f)
  | .ok roots =>
    let engine ← Engine.openWith t c
    let remarks := if engine.ruleSet.rules.isEmpty then
      ["warning: no rules loaded from " ++ c.engine.rulesPath] else []
    let found ← engine.checkMany t r.platform roots
    let summaries := found.map fun (s : CheckSummary) => { s with duration := env.elapsed }
    return ⟨reportText r.format colored summaries ++ "\n", remarks, exitStatus summaries, t⟩

def auditLines (colored : Bool) (path : String) (size : Nat) (a : Audit) : List String :=
  (a.notes.map fun note => Paint.boldBlue.apply colored "note" ++ ": " ++ note) ++
    (if a.isClean then
      [Paint.boldGreen.apply colored "success" ++ " " ++ toString size ++ " rules in " ++ path ++
        " are valid"]
    else a.errors.map fun e => Paint.boldRed.apply colored "error" ++ ": " ++ e)

def runValidateRules (t : FileTree) (colored : Bool) (c : Config) : Traced Outcome := do
  let path := c.engine.rulesPath
  Traced.noteOpened path
  match ← RuleSet.load t path with
  | .error f => return .stopped t (.ruleSet path f)
  | .ok rules =>
    let a ← rules.audit c.settings c.engine.rejectDuplicateIds
    return .lines t (if a.isClean then 0 else 1) (auditLines colored path rules.size a)

def readCandidates (t : FileTree) (path : String) : Traced (Except Fault (List Value)) := do
  Traced.noteOpened path
  match t.readText path with
  | .error f => return .error (.unreadable path f)
  | .ok text => return (Merge.parseCandidates text).mapError .merge

def runValidateCandidates (t : FileTree) (colored : Bool) (c : Config) (path project : String) :
    Traced Outcome := do
  match ← readCandidates t path with
  | .error f => return .stopped t f
  | .ok candidates =>
    let (rules, lines) := Candidate.judge colored c.settings 0 candidates
    let violated ← Candidate.dryRun t rules project
    let total := toString rules.length ++ " of " ++ toString candidates.length ++
      " candidates valid; dry run against " ++ project ++ ": " ++ toString violated.length ++
      " violated"
    let ids := violated.map fun id => "  " ++ Paint.cyan.apply colored id
    return .lines t (if rules.length < candidates.length then 1 else 0) (lines ++ total :: ids)

def mergeLines (colored : Bool) (path : String) (r : MergeReport) : List String :=
  (r.added.map fun id => Paint.boldGreen.apply colored "added" ++ " " ++ id) ++
    (r.updated.map fun id => Paint.boldCyan.apply colored "updated" ++ " " ++ id) ++
    (r.rejected.map fun x =>
      Paint.boldRed.apply colored "rejected" ++ " #" ++ toString (x.index + 1) ++ " " ++
        x.id.getD "<no id>" ++ ": " ++ x.reason) ++
    (r.backup.toList.map fun p => "Backup written to " ++ p) ++
    [path ++ " now holds " ++ toString r.total ++ " rules"]

def runMerge (t : FileTree) (env : Environment) (colored : Bool) (c : Config) (r : MergeRequest) :
    Traced Outcome := do
  match ← readCandidates t r.candidates with
  | .error f => return .stopped t f
  | .ok candidates =>
    let file := RuleSetFile.ofConfig { c with
      merge := ⟨c.merge.backup && r.backup, c.merge.strict && r.strict⟩ }
    match ← file.merge t env.clock candidates with
    | (t, .error f) => return .stopped t (.merge f)
    | (t, .ok report) =>
      return .lines t (if report.rejected.isEmpty then 0 else 1)
        (mergeLines colored file.path report)

def padded (width : Nat) (s : String) : String :=
  s ++ String.ofList (List.replicate (width - s.length) ' ')

def ruleLine (colored : Bool) (c : Config) (r : Rule) : String :=
  Paint.cyan.apply colored (padded 28 r.id) ++ " " ++ padded 8 r.platform.name ++ " " ++
    padded 8 r.severity.name ++ " " ++ r.title ++ (if c.isEnabled r.id then "" else " (disabled)")

def runRules (t : FileTree) (colored : Bool) (c : Config) (p : Platform) (json : Bool) :
    Traced Outcome := do
  let engine ← Engine.openWith t c
  let rules := engine.rulesFor p
  if json then return .lines t 0 [(Json.arr (rules.map (·.toJson))).indented]
  else
    return .lines t 0 (rules.map (ruleLine colored c) ++ ["", toString rules.length ++ " rules"])

def runCommand (t : FileTree) (env : Environment) (shared : SharedOptions) (command : Command) :
    Traced Outcome := do
  let loaded ← match shared.config with
    | some path => Config.load t path
    | none => Config.loadUsual t env.home
  match loaded with
  | .error f => return .stopped t (.config shared.config f)
  | .ok c =>
    let c := c.override ⟨shared.rules, none, none, none⟩
    let colored := env.terminal && !shared.colorless
    match command with
    | .check r => runCheck t env colored (c.override ⟨none, r.jobs, r.disabled, r.ignore⟩) r
    | .validateRules => runValidateRules t colored c
    | .validateCandidates path project => runValidateCandidates t colored c path project
    | .merge r => runMerge t env colored c r
    | .rules p json => runRules t colored c p json

def run (t : FileTree) (env : Environment) (args : List String) : Traced Outcome :=
  match Request.read args with
  | .error f => pure (.misused t f)
  | .ok .version => pure (.lines t 0 ["storeguard 0.1.0"])
  | .ok (.command shared command) => runCommand t env shared command

end StorePolicy.CommandLine

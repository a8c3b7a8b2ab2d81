import StorePolicy.CommandLine.Arguments
import StorePolicy.Platform

/-!
# Commands

Projects are checked, the rule-set or candidates are validated, candidates are merged, and
rules are listed. Some options belong to every command and can stand in front of it, too;
behind it they count more.
-/
namespace StorePolicy.CommandLine

inductive ReportFormat where
  | text
  | json
deriving DecidableEq

structure CheckRequest where
  projects : List String
  platform : Platform
  format : ReportFormat
  jobs : Option Nat
  disabled : Option (List String)
  ignore : Option (List String)

structure MergeRequest where
  candidates : String
  backup : Bool
  strict : Bool

inductive Command where
  | check (r : CheckRequest)
  | validateRules
  | validateCandidates (candidates project : String)
  | merge (r : MergeRequest)
  | rules (platform : Platform) (json : Bool)

structure SharedOptions where
  config : Option String
  rules : Option String
  verbose : Bool
  colorless : Bool

inductive Request where
  | version
  | command (shared : SharedOptions) (command : Command)

namespace SharedOptions

def switches : List Switch :=
  [⟨"config", some 'c', true⟩, ⟨"rules", some 'r', true⟩, ⟨"verbose", some 'v', false⟩,
    ⟨"no-color", none, false⟩]

def read (args : List Argument) : Except UsageFault SharedOptions := do
  return {
    config := ← Argument.path? "config" args
    rules := ← Argument.path? "rules" args
    verbose := ← Argument.flag "verbose" args
    colorless := ← Argument.flag "no-color" args }

def join (front behind : SharedOptions) : SharedOptions where
  config := behind.config <|> front.config
  rules := behind.rules <|> front.rules
  verbose := behind.verbose || front.verbose
  colorless := behind.colorless || front.colorless

end SharedOptions

namespace Command

def readPlatform (args : List Argument) : Except UsageFault Platform := do
  match ← Argument.text? "platform" args with
  | none => return .both
  | some s =>
    match Platform.ofName? s with
    | some p => return p
    | none => throw (.badText "platform" s)

def readFormat (args : List Argument) : Except UsageFault ReportFormat := do
  match ← Argument.text? "format" args with
  | none => return .text
  | some "text" => return .text
  | some "json" => return .json
  | some s => throw (.badText "format" s)

def readCount (s : String) : Option Nat :=
  let digits := match s.toList with
    | '+' :: cs => cs
    | cs => cs
  if digits.isEmpty || !digits.all Char.isDigit then none
  else
    let n := digits.foldl (fun n c => n * 10 + (c.toNat - '0'.toNat)) 0
    if n < Nat.pow 2 64 then some n else none

def readJobs (args : List Argument) : Except UsageFault (Option Nat) := do
  match ← Argument.text? "jobs" args with
  | none => return none
  | some s =>
    match readCount s with
    | some n => return some n
    | none => throw (.badText "jobs" s)

def readList (name : String) (args : List Argument) : Option (List String) :=
  match Argument.texts name args with
  | [] => none
  | texts => some (texts.flatMap fun s => s.splitOn ",")

def readCheck (args : List Argument) : Except UsageFault Command := do
  let words := Argument.words args
  return .check {
    projects := if words.isEmpty then ["."] else words
    platform := ← readPlatform args
    format := ← readFormat args
    jobs := ← readJobs args
    disabled := readList "disable" args
    ignore := readList "ignore" args }

def readValidate (args : List Argument) : Except UsageFault Command := do
  let project := (← Argument.path? "project" args).getD "."
  match Argument.words args with
  | [] => return .validateRules
  | [""] => throw (.missingWord "CANDIDATES")
  | [candidates] => return .validateCandidates candidates project
  | _ :: word :: _ => throw (.unexpectedWord word)

def readMerge (args : List Argument) : Except UsageFault Command := do
  let backup := !(← Argument.flag "no-backup" args)
  let strict := !(← Argument.flag "lenient" args)
  match Argument.words args with
  | [] => throw (.missingWord "CANDIDATES")
  | [""] => throw (.missingWord "CANDIDATES")
  | [candidates] => return .merge ⟨candidates, backup, strict⟩
  | _ :: word :: _ => throw (.unexpectedWord word)

def readRules (args : List Argument) : Except UsageFault Command := do
  match Argument.words args with
  | [] => return .rules (← readPlatform args) (← Argument.flag "json" args)
  | word :: _ => throw (.unexpectedWord word)

def platformSwitch : Switch := ⟨"platform", some 'p', true⟩

def table : List (String × List Switch × (List Argument → Except UsageFault Command)) :=
  [("check", [platformSwitch, ⟨"format", some 'f', true⟩, ⟨"jobs", some 'j', true⟩,
      ⟨"disable", none, true⟩, ⟨"ignore", none, true⟩], readCheck),
    ("validate", [⟨"project", none, true⟩], readValidate),
    ("merge", [⟨"no-backup", none, false⟩, ⟨"lenient", none, false⟩], readMerge),
    ("rules", [platformSwitch, ⟨"json", none, false⟩], readRules)]

end Command

namespace Request

def versionSwitch : Switch := ⟨"version", some 'V', false⟩

def read (args : List String) : Except UsageFault Request := do
  let known := versionSwitch :: SharedOptions.switches
  let (front, rest) ← Argument.readFront known args.length args
  if front.contains (.mark "version") then return .version
  let shared ← SharedOptions.read front
  match rest with
  | [] => throw .missingCommand
  | word :: rest =>
    match Command.table.lookup word with
    | none => throw (.unknownCommand word)
    | some (switches, readCommand) =>
      let behind ← Argument.readAll (SharedOptions.switches ++ switches) rest
      return .command (shared.join (← SharedOptions.read behind)) (← readCommand behind)

end Request
end StorePolicy.CommandLine

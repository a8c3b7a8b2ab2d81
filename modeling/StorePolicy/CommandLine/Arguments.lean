/-!
# Arguments of command lines

Arguments are options and plain words. An option has a long name behind two hyphens or a letter
behind one; letters can be joined. The text that an option asks for is the rest of its argument
or the next one, which then must not look like an option. Two hyphens by themselves end the
options.
-/
namespace StorePolicy.CommandLine

structure Switch where
  name : String
  letter : Option Char
  takesText : Bool

inductive UsageFault where
  | unknownOption (option : String)
  | missingText (name : String)
  | unwantedText (name : String)
  | repeated (name : String)
  | unknownCommand (word : String)
  | missingCommand
  | unexpectedWord (word : String)
  | missingWord (name : String)
  | badText (name text : String)
deriving DecidableEq

def UsageFault.message : UsageFault → String
  | .unknownOption option => "unexpected argument '" ++ option ++ "' found"
  | .missingText name => "a value is required for '--" ++ name ++ "'"
  | .unwantedText name => "unexpected value for '--" ++ name ++ "'"
  | .repeated name => "the argument '--" ++ name ++ "' cannot be used multiple times"
  | .unknownCommand word => "unrecognized subcommand '" ++ word ++ "'"
  | .missingCommand => "a subcommand is required"
  | .unexpectedWord word => "unexpected argument '" ++ word ++ "' found"
  | .missingWord name => "the argument <" ++ name ++ "> is required"
  | .badText name text => "invalid value '" ++ text ++ "' for '--" ++ name ++ "'"

inductive Argument where
  | mark (name : String)
  | setting (name text : String)
  | word (text : String)
deriving DecidableEq

namespace Argument

def looksLikeOption (s : String) : Bool :=
  match s.toList with
  | '-' :: _ :: _ => true
  | _ => false

def nextText (name : String) : List String → Except UsageFault (Argument × List String)
  | s :: rest =>
    if looksLikeOption s then .error (.missingText name) else .ok (.setting name s, rest)
  | [] => .error (.missingText name)

def readLong (known : List Switch) (cs : List Char) (rest : List String) :
    Except UsageFault (Argument × List String) :=
  let name := String.ofList (cs.takeWhile (· ≠ '='))
  let attached := cs.dropWhile (· ≠ '=')
  match known.find? (·.name == name) with
  | none => .error (.unknownOption ("--" ++ name))
  | some s =>
    if attached.isEmpty then if s.takesText then nextText name rest else .ok (.mark name, rest)
    else if s.takesText then .ok (.setting name (String.ofList (attached.drop 1)), rest)
    else .error (.unwantedText name)

def readLetters (known : List Switch) (rest : List String) :
    List Char → Except UsageFault (List Argument × List String)
  | [] => .ok ([], rest)
  | c :: cs =>
    match known.find? (·.letter == some c) with
    | none => .error (.unknownOption (String.ofList ['-', c]))
    | some s =>
      if s.takesText then
        match cs with
        | [] => do
          let (a, rest) ← nextText s.name rest
          return ([a], rest)
        | '=' :: cs => .ok ([.setting s.name (String.ofList cs)], rest)
        | cs => .ok ([.setting s.name (String.ofList cs)], rest)
      else do
        let (more, rest) ← readLetters known rest cs
        return (.mark s.name :: more, rest)

def readOption (known : List Switch) (s : String) (rest : List String) :
    Except UsageFault (List Argument × List String) :=
  match s.toList with
  | '-' :: '-' :: cs => do
    let (a, rest) ← readLong known cs rest
    return ([a], rest)
  | '-' :: cs => readLetters known rest cs
  | _ => .ok ([.word s], rest)

def readMany (known : List Switch) : Nat → List String → Except UsageFault (List Argument)
  | 0, _ => .ok []
  | _, [] => .ok []
  | count + 1, s :: rest =>
    if s = "--" then .ok (rest.map .word)
    else if looksLikeOption s then do
      let (first, rest) ← readOption known s rest
      return first ++ (← readMany known count rest)
    else do
      return .word s :: (← readMany known count rest)

def readAll (known : List Switch) (args : List String) : Except UsageFault (List Argument) :=
  readMany known args.length args

def readFront (known : List Switch) : Nat → List String →
    Except UsageFault (List Argument × List String)
  | 0, args => .ok ([], args)
  | _, [] => .ok ([], [])
  | count + 1, s :: rest =>
    if looksLikeOption s && s ≠ "--" then do
      let (first, rest) ← readOption known s rest
      let (more, rest) ← readFront known count rest
      return (first ++ more, rest)
    else .ok ([], s :: rest)

def words (args : List Argument) : List String :=
  args.filterMap fun
    | .word s => some s
    | _ => none

def texts (name : String) (args : List Argument) : List String :=
  args.filterMap fun
    | .setting n s => if n = name then some s else none
    | _ => none

def text? (name : String) (args : List Argument) : Except UsageFault (Option String) :=
  match texts name args with
  | [] => .ok none
  | [s] => .ok (some s)
  | _ => .error (.repeated name)

def flag (name : String) (args : List Argument) : Except UsageFault Bool :=
  match args.count (.mark name) with
  | 0 => .ok false
  | 1 => .ok true
  | _ => .error (.repeated name)

def path? (name : String) (args : List Argument) : Except UsageFault (Option String) := do
  match ← text? name args with
  | some "" => throw (.missingText name)
  | s => return s

end Argument
end StorePolicy.CommandLine

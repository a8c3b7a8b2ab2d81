import StorePolicy.Config
import StorePolicy.RuleSet.File

/-!
# The engine

An engine holds a rule-set, which it reads from a file or is given. What cannot be read or is
not valid is replaced by the empty rule-set, and the cause goes to the log. Loading again reads
the last file again; a rule-set that was given has no file and stays.
-/
namespace StorePolicy

structure LoadedRules where
  source : Option String
  rules : RuleSet

structure Engine where
  config : Config
  loaded : Option LoadedRules

namespace Engine

def new (c : Config) : Engine := ⟨c, none⟩

def isLoaded (e : Engine) : Bool := e.loaded.isSome

def source (e : Engine) : Option String := e.loaded.bind (·.source)

def ruleSet (e : Engine) : RuleSet := (e.loaded.map (·.rules)).getD .empty

def install (e : Engine) (source : Option String) (rules : RuleSet) : Traced (Nat × Engine) := do
  Traced.log .info ("Loaded " ++ toString rules.size ++ " rules (version " ++ rules.version ++ ")")
  pure (rules.size, { e with loaded := some ⟨source, rules⟩ })

def validated (c : Config) (rules : RuleSet) : Traced (Except SchemaFault RuleSet) := do
  let depth := c.engine.maxConditionDepth
  let reject := c.engine.rejectDuplicateIds
  Traced.logAll (rules.validateLog depth reject)
  match rules.validate depth reject with
  | .ok () => pure (.ok rules)
  | .error f => pure (.error f)

def readRules (t : FileTree) (c : Config) (path : String) :
    Traced (Except RuleSet.LoadFault RuleSet) := do
  Traced.noteOpened path
  if t.exists? path then
    match ← RuleSet.load t path with
    | .error f => pure (.error f)
    | .ok rules =>
      match ← validated c rules with
      | .ok rules => pure (.ok rules)
      | .error f => pure (.error (.schema f))
  else
    Traced.log .info ("Rule-set " ++ path ++ " not found, no rules loaded")
    pure (.ok .empty)

def usableRules (t : FileTree) (c : Config) (path : String) : Traced RuleSet := do
  match ← readRules t c path with
  | .ok rules => pure rules
  | .error f =>
    Traced.log .warn ("Failed to load rules from " ++ path ++ ": " ++ f.message)
    pure .empty

def load (t : FileTree) (e : Engine) (path : String) : Traced (Nat × Engine) := do
  let rules ← usableRules t e.config path
  e.install (some path) rules

def loadRules (e : Engine) (rules : RuleSet) : Traced (Nat × Engine) := do
  match ← validated e.config rules with
  | .ok rules => e.install none rules
  | .error f =>
    Traced.log .warn ("Rejected rule-set: " ++ (RuleSet.LoadFault.schema f).message)
    e.install none .empty

def reloadPath? (e : Engine) : Option String :=
  match e.loaded with
  | none => some e.config.engine.rulesPath
  | some l => l.source

def reload (t : FileTree) (e : Engine) : Traced (Nat × Engine) :=
  match e.reloadPath? with
  | some path => load t e path
  | none => do
    Traced.log .debug "Rule-set was installed from memory, nothing to reload"
    pure (e.ruleSet.size, e)

def openWith (t : FileTree) (c : Config) : Traced Engine := do
  return (← load t (new c) c.engine.rulesPath).2

def rulesFor (e : Engine) (p : Platform) : List Rule := e.ruleSet.rules.filter (·.appliesTo p)

def rule? (e : Engine) (id : String) : Option Rule := e.ruleSet.rule? id

end Engine
end StorePolicy

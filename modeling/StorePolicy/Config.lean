import StorePolicy.Check.Build

/-!
# Configurations

A configuration has settings for the engine, a selection of rules, and settings for
merging. Its rules path must not be empty and its bound on nesting not zero. A rule is left out
if it is disabled by its id or if an ignored text begins its id, whatever the case of
letters.
-/
namespace StorePolicy

structure EngineConfig where
  rulesPath : String
  maxConditionDepth : Nat
  sandboxTargets : Bool
  rejectDuplicateIds : Bool
  parallel : Bool
  jobs : Nat
deriving DecidableEq, Inhabited

structure RulesConfig where
  disabled : List String
  ignore : List String
deriving DecidableEq, Inhabited

structure MergeConfig where
  backup : Bool
  strict : Bool
deriving DecidableEq, Inhabited

structure Config where
  engine : EngineConfig
  rules : RulesConfig
  merge : MergeConfig
deriving DecidableEq, Inhabited

def EngineConfig.usual : EngineConfig :=
  ⟨"rules.yaml", Check.Settings.defaultMaxDepth, true, false, true, 0⟩

def RulesConfig.usual : RulesConfig := ⟨[], []⟩

def MergeConfig.usual : MergeConfig := ⟨true, true⟩

inductive ConfigFault where
  | zeroDepth
  | emptyRulesPath
  | unknownFormat (extension : String)
deriving DecidableEq

def ConfigFault.message : ConfigFault → String
  | .zeroDepth => "Invalid configuration: engine.max_condition_depth must be at least 1"
  | .emptyRulesPath => "Invalid configuration: engine.rules_path must not be empty"
  | .unknownFormat e => "Invalid configuration: Unknown config file format: " ++ e

structure Overrides where
  rulesPath : Option String
  jobs : Option Nat
  disabled : Option (List String)
  ignore : Option (List String)

namespace Config

def usual : Config := ⟨.usual, .usual, .usual⟩

def validate (c : Config) : Except ConfigFault Unit :=
  if c.engine.maxConditionDepth = 0 then .error .zeroDepth
  else if c.engine.rulesPath.isEmpty then .error .emptyRulesPath
  else .ok ()

def override (c : Config) (o : Overrides) : Config :=
  { c with
    engine := { c.engine with
      rulesPath := o.rulesPath.getD c.engine.rulesPath
      jobs := o.jobs.getD c.engine.jobs }
    rules :=
      ⟨c.rules.disabled ++ o.disabled.getD [], c.rules.ignore ++ o.ignore.getD []⟩ }

def startsWithText (s start : String) : Bool :=
  (Text.upper start.toList).isPrefixOf (Text.upper s.toList)

def isIgnored (c : Config) (id : String) : Bool := c.rules.ignore.any fun p => startsWithText id p

def isEnabled (c : Config) (id : String) : Bool := !c.rules.disabled.contains id && !c.isIgnored id

def settings (c : Config) : Check.Settings :=
  (Check.Settings.usual.withMaxDepth c.engine.maxConditionDepth).withSandbox c.engine.sandboxTargets

theorem validate_eq_ok_iff (c : Config) :
    c.validate = .ok () ↔ c.engine.maxConditionDepth ≠ 0 ∧ c.engine.rulesPath.isEmpty = false := by
  unfold validate
  split
  · simp_all
  · split <;> simp_all

end Config
end StorePolicy

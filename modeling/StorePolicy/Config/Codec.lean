import StorePolicy.Config
import StorePolicy.Decode.JsonText
import StorePolicy.Decode.JsonValue
import StorePolicy.Decode.YamlText

/-!
# Written forms of configurations

Every section and every field may be left out.
-/
namespace StorePolicy

variable {ν : Type}

def readPath (d : Dialect ν) (v : ν) : Read String :=
  (d.text v).mapError (·.expecting "path string")

namespace EngineConfig

def toJson (c : EngineConfig) : Json :=
  .obj [("rules_path", .str c.rulesPath), ("max_condition_depth", .int c.maxConditionDepth),
    ("sandbox_targets", .bool c.sandboxTargets), ("reject_duplicate_ids", .bool c.rejectDuplicateIds),
    ("parallel", .bool c.parallel), ("jobs", .int c.jobs)]

structure Draft where
  rulesPath : Option String
  maxConditionDepth : Option Nat
  sandboxTargets : Option Bool
  rejectDuplicateIds : Option Bool
  parallel : Option Bool
  jobs : Option Nat

def fields (d : Dialect ν) : List (Field ν Draft) :=
  [.of "rules_path" false (·.rulesPath) (fun c s => { c with rulesPath := some s }) (readPath d),
    .of "max_condition_depth" false (·.maxConditionDepth)
      (fun c n => { c with maxConditionDepth := some n }) d.count,
    .of "sandbox_targets" false (·.sandboxTargets) (fun c b => { c with sandboxTargets := some b }) d.flag,
    .of "reject_duplicate_ids" false (·.rejectDuplicateIds)
      (fun c b => { c with rejectDuplicateIds := some b }) d.flag,
    .of "parallel" false (·.parallel) (fun c b => { c with parallel := some b }) d.flag,
    .of "jobs" false (·.jobs) (fun c n => { c with jobs := some n }) d.count]

def build (c : Draft) : EngineConfig where
  rulesPath := c.rulesPath.getD usual.rulesPath
  maxConditionDepth := c.maxConditionDepth.getD usual.maxConditionDepth
  sandboxTargets := c.sandboxTargets.getD usual.sandboxTargets
  rejectDuplicateIds := c.rejectDuplicateIds.getD usual.rejectDuplicateIds
  parallel := c.parallel.getD usual.parallel
  jobs := c.jobs.getD usual.jobs

def read (d : Dialect ν) (v : ν) : Read EngineConfig :=
  (Schema.mk "struct EngineConfig" (fields d) ⟨none, none, none, none, none, none⟩ build).read d v

end EngineConfig

namespace RulesConfig

def toJson (c : RulesConfig) : Json :=
  .obj [("disabled", .arr (c.disabled.map .str)), ("ignore", .arr (c.ignore.map .str))]

structure Draft where
  disabled : Option (List String)
  ignore : Option (List String)

def fields (d : Dialect ν) : List (Field ν Draft) :=
  [.of "disabled" false (·.disabled) (fun c ss => { c with disabled := some ss }) (d.list d.text),
    .of "ignore" false (·.ignore) (fun c ss => { c with ignore := some ss }) (d.list d.text)]

def read (d : Dialect ν) (v : ν) : Read RulesConfig :=
  (Schema.mk "struct RulesConfig" (fields d) ⟨none, none⟩ fun c =>
    ⟨c.disabled.getD [], c.ignore.getD []⟩).read d v

end RulesConfig

namespace MergeConfig

def toJson (c : MergeConfig) : Json := .obj [("backup", .bool c.backup), ("strict", .bool c.strict)]

structure Draft where
  backup : Option Bool
  strict : Option Bool

def fields (d : Dialect ν) : List (Field ν Draft) :=
  [.of "backup" false (·.backup) (fun c b => { c with backup := some b }) d.flag,
    .of "strict" false (·.strict) (fun c b => { c with strict := some b }) d.flag]

def read (d : Dialect ν) (v : ν) : Read MergeConfig :=
  (Schema.mk "struct MergeConfig" (fields d) ⟨none, none⟩ fun c =>
    ⟨c.backup.getD usual.backup, c.strict.getD usual.strict⟩).read d v

end MergeConfig

namespace Config

def toJson (c : Config) : Json :=
  .obj [("engine", c.engine.toJson), ("rules", c.rules.toJson), ("merge", c.merge.toJson)]

structure Draft where
  engine : Option EngineConfig
  rules : Option RulesConfig
  merge : Option MergeConfig

def fields (d : Dialect ν) : List (Field ν Draft) :=
  [.of "engine" false (·.engine) (fun c e => { c with engine := some e }) (EngineConfig.read d),
    .of "rules" false (·.rules) (fun c r => { c with rules := some r }) (RulesConfig.read d),
    .of "merge" false (·.merge) (fun c m => { c with merge := some m }) (MergeConfig.read d)]

def read (d : Dialect ν) (v : ν) : Read Config :=
  (Schema.mk "struct Config" (fields d) ⟨none, none, none⟩ fun c =>
    ⟨c.engine.getD .usual, c.rules.getD .usual, c.merge.getD .usual⟩).read d v

def ofJsonText (s : String) : Read Config := JsonText.read (read JsonText.dialect) s

def ofYamlText (s : String) : Read Config :=
  if Text.blank s then .ok usual else YamlText.read (read YamlText.dialect) s

def ofJson (j : Json) : Read Config := read JsonValue.dialect j

end Config
end StorePolicy

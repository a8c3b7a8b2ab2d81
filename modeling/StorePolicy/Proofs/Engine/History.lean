import StorePolicy.Engine
import StorePolicy.Proofs.RuleSet.Validity

/-!
# Histories of an engine

An engine is asked to load a file, to install a rule-set and to load again, in any order, and the files
may change in between. After the first operation it is loaded, its rules are always valid, and where
they come from can be read off the history: from the last operation that was not a reload, or
from the rules path if there was none. A step lemma says what one operation does to this.
-/
namespace StorePolicy

def Config.kept (c : Config) (rules : RuleSet) : RuleSet :=
  match rules.validate c.engine.maxConditionDepth c.engine.rejectDuplicateIds with
  | .ok () => rules
  | .error _ => .empty

def Config.fileRules (c : Config) (t : FileTree) (path : String) : RuleSet :=
  match (RuleSet.load t path).value with
  | .ok rules => c.kept rules
  | .error _ => .empty

def Config.Admits (c : Config) (rules : RuleSet) : Prop :=
  rules.validate c.engine.maxConditionDepth c.engine.rejectDuplicateIds = .ok ()

theorem Config.admits_empty (c : Config) : c.Admits .empty := by
  simp [Admits, RuleSet.validate_eq_ok_iff, RuleSet.empty, RuleSet.ofRules]

theorem Config.admits_kept (c : Config) (rules : RuleSet) : c.Admits (c.kept rules) := by
  unfold kept
  split
  · assumption
  · exact c.admits_empty

theorem Config.kept_of_admits {c : Config} {rules : RuleSet} (h : c.Admits rules) :
    c.kept rules = rules := by
  rw [kept, h]

theorem Config.kept_of_not_admits {c : Config} {rules : RuleSet} (h : ¬c.Admits rules) :
    c.kept rules = .empty := by
  unfold kept
  split
  · next hvalid => exact absurd hvalid h
  · rfl

theorem Config.admits_fileRules (c : Config) (t : FileTree) (path : String) :
    c.Admits (c.fileRules t path) := by
  unfold fileRules
  split
  · exact c.admits_kept _
  · exact c.admits_empty

namespace Engine

inductive Operation where
  | load (path : String)
  | install (rules : RuleSet)
  | reload

def Operation.source? : Operation → Option (Option String)
  | .load path => some (some path)
  | .install _ => some none
  | .reload => none

def perform (t : FileTree) (e : Engine) : Operation → Nat × Engine
  | .load path => (load t e path).value
  | .install rules => (loadRules e rules).value
  | .reload => (reload t e).value

/-- The engine after a history; every operation finds the files as they are at its time. -/
def after (c : Config) (past : List (FileTree × Operation)) : Engine :=
  past.foldl (fun e step => (perform step.1 e step.2).2) (new c)

/-- The file that the rules come from, if it is a file; before the first operation the rules path. -/
def lastFile (c : Config) (past : List (FileTree × Operation)) : Option String :=
  (past.reverse.findSome? (·.2.source?)).getD (some c.engine.rulesPath)

variable {c : Config} {t : FileTree} {e : Engine}

theorem usableRules_value (path : String) : (usableRules t c path).value = c.fileRules t path := by
  rw [Config.fileRules, usableRules, Traced.value_bind, readRules]
  cases hexists : t.exists? path with
  | false =>
    have hstat : ∃ f, t.stat path = .error f := by
      unfold FileTree.exists? at hexists
      cases h : t.stat path with
      | ok entry => simp [h, Except.isOk, Except.toBool] at hexists
      | error f => exact ⟨f, rfl⟩
    obtain ⟨f, hf⟩ := hstat
    have hread : t.readText path = .error f := by
      simp [FileTree.readText, FileTree.readBytes, hf, Bind.bind, Except.bind]
    simp [RuleSet.load, hread]
  | true =>
    cases hload : (RuleSet.load t path).value with
    | error f => simp [hload]
    | ok rules =>
      cases hvalid : rules.validate c.engine.maxConditionDepth c.engine.rejectDuplicateIds <;>
        simp [hload, validated, Config.kept, hvalid]

theorem load_value (path : String) :
    (load t e path).value = (e.install (some path) (e.config.fileRules t path)).value := by
  rw [load, Traced.value_bind, usableRules_value]

theorem loadRules_value (rules : RuleSet) :
    (loadRules e rules).value = (e.install none (e.config.kept rules)).value := by
  rw [loadRules, Traced.value_bind, Config.kept]
  cases hvalid : rules.validate e.config.engine.maxConditionDepth
      e.config.engine.rejectDuplicateIds <;> simp [validated, hvalid]

theorem lastFile_append (past : List (FileTree × Operation)) (op : Operation) :
    lastFile c (past ++ [(t, op)]) = op.source?.getD (lastFile c past) := by
  rw [lastFile, List.reverse_append]
  cases hsource : op.source? <;> simp [lastFile, hsource]

structure Reached (c : Config) (past : List (FileTree × Operation)) (e : Engine) : Prop where
  config : e.config = c
  isLoaded : e.isLoaded = true ↔ past ≠ []
  admits : c.Admits e.ruleSet
  reloadPath : e.reloadPath? = lastFile c past

variable {past : List (FileTree × Operation)}

theorem reached_new : Reached c [] (new c) where
  config := rfl
  isLoaded := by simp [new, Engine.isLoaded]
  admits := c.admits_empty
  reloadPath := rfl

theorem Reached.install (h : Reached c past e) {op : Operation} {source : Option String}
    {rules : RuleSet} (hrules : c.Admits rules) (hsource : op.source?.getD (lastFile c past) = source) :
    Reached c (past ++ [(t, op)]) (e.install source rules).value.2 where
  config := h.config
  isLoaded := by simp [Engine.install, Engine.isLoaded]
  admits := hrules
  reloadPath := by rw [lastFile_append, hsource]; rfl

theorem reload_value (h : Reached c past e) :
    (reload t e).value =
      match lastFile c past with
      | some path => (load t e path).value
      | none => (e.ruleSet.size, e) := by
  rw [reload, h.reloadPath]
  cases lastFile c past <;> rfl

theorem Reached.perform (h : Reached c past e) (op : Operation) :
    Reached c (past ++ [(t, op)]) (perform t e op).2 := by
  cases op with
  | load path =>
    rw [Engine.perform, load_value, h.config]
    exact h.install (c.admits_fileRules t path) rfl
  | install rules =>
    rw [Engine.perform, loadRules_value, h.config]
    exact h.install (c.admits_kept rules) rfl
  | reload =>
    rw [Engine.perform, reload_value h]
    cases hfile : lastFile c past with
    | some path =>
      simp only [load_value, h.config]
      exact h.install (c.admits_fileRules t path) hfile
    | none =>
      have hloaded : e.isLoaded = true := by
        have hpath : e.reloadPath? = none := h.reloadPath.trans hfile
        unfold reloadPath? at hpath
        cases hrules : e.loaded with
        | none => simp [hrules] at hpath
        | some l => simp [Engine.isLoaded, hrules]
      refine ⟨h.config, ?_, h.admits, ?_⟩
      · simp [hloaded]
      · rw [lastFile_append]
        exact h.reloadPath

theorem Reached.foldl (h : Reached c past e) (steps : List (FileTree × Operation)) :
    Reached c (past ++ steps) (steps.foldl (fun e step => (Engine.perform step.1 e step.2).2) e) := by
  induction steps generalizing past e with
  | nil => simpa using h
  | cons step rest ih =>
    have hstep := ih (h.perform (t := step.1) step.2)
    rwa [List.append_assoc] at hstep

theorem Reached.source (h : Reached c past e) :
    e.source = if past.isEmpty then none else lastFile c past := by
  have hpath := h.reloadPath
  have hloaded := h.isLoaded
  unfold reloadPath? at hpath
  cases hrules : e.loaded with
  | none =>
    have hpast : past = [] := by simpa [Engine.isLoaded, hrules] using hloaded
    simp [Engine.source, hrules, hpast]
  | some l =>
    have hpast : past ≠ [] := by simpa [Engine.isLoaded, hrules] using hloaded
    rw [hrules] at hpath
    simp [Engine.source, hrules, hpast, ← hpath]

theorem Reached.perform_count (h : Reached c past e) (op : Operation) :
    (Engine.perform t e op).1 = (Engine.perform t e op).2.ruleSet.size := by
  cases op with
  | load path =>
    rw [Engine.perform, load_value]
    rfl
  | install rules =>
    rw [Engine.perform, loadRules_value]
    rfl
  | reload =>
    rw [Engine.perform, reload_value h]
    cases lastFile c past with
    | some path =>
      simp only [load_value]
      rfl
    | none => rfl

/-- An engine is loaded after its first operation and from then on; its rules are always valid; their
source can be read off the history. Every operation returns the number of rules installed, which are
those of the file or of the rule-set if they are valid, and to reload is to load the last file
again. -/
theorem after_follows_history (c : Config) (past : List (FileTree × Operation)) :
    ((after c past).isLoaded = true ↔ past ≠ []) ∧
    (after c past).ruleSet.validate c.engine.maxConditionDepth c.engine.rejectDuplicateIds = .ok () ∧
    (after c past).source = (if past.isEmpty then none else lastFile c past) ∧
    ∀ t : FileTree,
      (∀ op, (perform t (after c past) op).1 = (perform t (after c past) op).2.ruleSet.size) ∧
      (∀ path, (perform t (after c past) (.load path)).2.ruleSet = c.fileRules t path) ∧
      (∀ rules, (perform t (after c past) (.install rules)).2.ruleSet = c.kept rules) ∧
      perform t (after c past) .reload =
        match lastFile c past with
        | some path => perform t (after c past) (.load path)
        | none => ((after c past).ruleSet.size, after c past) := by
  have h : Reached c past (after c past) := reached_new.foldl past
  refine ⟨h.isLoaded, h.admits, h.source, fun t => ⟨h.perform_count, fun path => ?_, fun rules => ?_,
    reload_value h⟩⟩
  · rw [perform, load_value, h.config]
    rfl
  · rw [perform, loadRules_value, h.config]
    rfl

end Engine
end StorePolicy

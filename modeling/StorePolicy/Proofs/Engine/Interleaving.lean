import Mathlib.Data.List.Induction
import Mathlib.Data.List.Perm.Basic
import StorePolicy.Proofs.Engine.History

/-!
# Calls that overlap

An engine is shared, and a call is not one step. To load, the file is read and then the rules
are installed; to reload, the path is chosen first. Other calls may come between any two steps. With
the files fixed, the calls of any sequential order end in the rules of the last one that is not a
reload. Overlapping calls do so too, unless a reload has chosen the path of rules that
another call replaces meanwhile.
-/
namespace StorePolicy

namespace Engine

/-- What is left to do of a call: all of it, or to install the rules that it has read. -/
inductive Pending where
  | start (op : Operation)
  | write (result : LoadedRules)

variable {t : FileTree} {e final : Engine}

def advance (t : FileTree) (e : Engine) : Pending → Engine × Option Pending
  | .start (.load path) => (e, some (.write ⟨some path, (usableRules t e.config path).value⟩))
  | .start (.install rules) => ((loadRules e rules).value.2, none)
  | .start .reload => (e, e.reloadPath?.map fun path => .start (.load path))
  | .write result => ((e.install result.source result.rules).value.2, none)

/-- The calls of a pool, in steps that alternate in any way, end in an engine. -/
inductive Interleaves (t : FileTree) : Engine → List Pending → Engine → Prop
  | done (e : Engine) : Interleaves t e [] e
  | step {e final : Engine} {before rest : List Pending} (k : Pending)
      (h : Interleaves t (advance t e k).1 (before ++ (advance t e k).2.toList ++ rest) final) :
      Interleaves t e (before ++ k :: rest) final

def inOrder (t : FileTree) (e : Engine) (ops : List Operation) : Engine :=
  ops.foldl (fun e op => (perform t e op).2) e

/-- The rules that a call installs, whatever is installed before it; those of a reload depend on that. -/
def Operation.result? (c : Config) (t : FileTree) : Operation → Option LoadedRules
  | .load path => some ⟨some path, c.fileRules t path⟩
  | .install rules => some ⟨none, c.kept rules⟩
  | .reload => none

theorem Operation.eq_reload {c : Config} {op : Operation} (h : op.result? c t = none) :
    op = .reload := by
  cases op with
  | load path => cases h
  | install rules => cases h
  | reload => rfl

theorem inOrder_append (ops : List Operation) (op : Operation) :
    inOrder t e (ops ++ [op]) = (perform t (inOrder t e ops) op).2 := by
  rw [inOrder, List.foldl_append]
  rfl

theorem perform_of_result {op : Operation} {l : LoadedRules}
    (h : op.result? e.config t = some l) : (perform t e op).2 = { e with loaded := some l } := by
  cases op with
  | load path =>
    obtain rfl := Option.some_inj.1 h
    rw [perform, load_value]
    rfl
  | install rules =>
    obtain rfl := Option.some_inj.1 h
    rw [perform, loadRules_value]
    rfl
  | reload => cases h

theorem reload_of_path {path : String} (h : e.reloadPath? = some path) :
    perform t e .reload = perform t e (.load path) := by
  change (reload t e).value = (load t e path).value
  rw [reload, h]

theorem reload_of_memory (h : e.reloadPath? = none) : (perform t e .reload).2 = e := by
  rw [perform, reload, h]
  rfl

theorem reload_of_result {op : Operation} {l : LoadedRules}
    (h : op.result? e.config t = some l) (hloaded : e.loaded = some l) :
    (perform t e .reload).2 = e := by
  have hpath : e.reloadPath? = l.source := by rw [reloadPath?, hloaded]
  cases op with
  | load path =>
    obtain rfl := Option.some_inj.1 h
    rw [reload_of_path hpath, perform_of_result h, ← hloaded]
  | install rules =>
    obtain rfl := Option.some_inj.1 h
    exact reload_of_memory hpath
  | reload => cases h

theorem perform_config (op : Operation) : (perform t e op).2.config = e.config := by
  cases hresult : op.result? e.config t with
  | some l => rw [perform_of_result hresult]
  | none =>
    obtain rfl := Operation.eq_reload hresult
    cases hpath : e.reloadPath? with
    | none => rw [reload_of_memory hpath]
    | some path =>
      have hload : (Operation.load path).result? e.config t = some _ := rfl
      rw [reload_of_path hpath, perform_of_result hload]

theorem inOrder_config (ops : List Operation) : (inOrder t e ops).config = e.config := by
  induction ops generalizing e with
  | nil => rfl
  | cons op ops ih => exact ih.trans (perform_config op)

theorem inOrder_loaded (ops : List Operation) {l : LoadedRules}
    (h : ops.reverse.findSome? (Operation.result? e.config t) = some l) :
    (inOrder t e ops).loaded = some l := by
  induction ops using List.reverseRecOn with
  | nil => cases h
  | append_singleton ops op ih =>
    rw [List.reverse_append, List.reverse_singleton, List.singleton_append,
      List.findSome?_cons] at h
    rw [inOrder_append]
    have hconfig : (inOrder t e ops).config = e.config := inOrder_config ops
    cases hop : op.result? e.config t with
    | some l' =>
      rw [hop] at h
      obtain rfl := Option.some_inj.1 h
      rw [perform_of_result (hconfig ▸ hop)]
    | none =>
      rw [hop] at h
      have hbefore := ih h
      obtain rfl := Operation.eq_reload hop
      obtain ⟨op', -, hl⟩ := List.exists_of_findSome?_eq_some h
      rw [reload_of_result (hconfig ▸ hl) hbefore, hbefore]

/-! ### Runs of overlapping calls -/

theorem Interleaves.of_perform (op : Operation) {before rest : List Pending}
    (h : Interleaves t (perform t e op).2 (before ++ rest) final) :
    Interleaves t e (before ++ .start op :: rest) final := by
  have hload : ∀ path, Interleaves t (perform t e (.load path)).2 (before ++ rest) final →
      Interleaves t e (before ++ .start (.load path) :: rest) final := by
    intro path h
    refine .step _ ?_
    rw [advance, Option.toList_some, List.append_assoc, List.singleton_append]
    refine .step _ ?_
    rw [perform, load, Traced.value_bind] at h
    simpa [advance] using h
  cases op with
  | load path => exact hload path h
  | install rules =>
    refine .step _ ?_
    simpa [advance, perform] using h
  | reload =>
    refine .step _ ?_
    rw [advance]
    cases hpath : e.reloadPath? with
    | none =>
      rw [reload_of_memory hpath] at h
      simpa using h
    | some path =>
      rw [Option.map_some, Option.toList_some, List.append_assoc, List.singleton_append]
      rw [reload_of_path hpath] at h
      exact hload path h

theorem Interleaves.of_inOrder (ops : List Operation) {before : List Pending}
    (h : Interleaves t (inOrder t e ops) before final) :
    Interleaves t e (before ++ ops.map .start) final := by
  induction ops generalizing e with
  | nil => simpa [inOrder] using h
  | cons op ops ih => exact .of_perform op (ih h)

theorem Interleaves.perm {pool other : List Pending} (h : Interleaves t e pool final)
    (hperm : pool.Perm other) : Interleaves t e other final := by
  induction h generalizing other with
  | done e =>
    rw [← hperm.nil_eq]
    exact .done e
  | step k h ih =>
    obtain ⟨before, rest, rfl⟩ := List.append_of_mem (hperm.subset (by simp : k ∈ _ ++ k :: _))
    refine .step k (ih ?_)
    have hothers := List.perm_middle.symm.trans (hperm.trans List.perm_middle)
    rw [List.append_assoc, List.append_assoc]
    exact (List.perm_append_comm_assoc _ _ _).trans
      ((hothers.cons_inv.append_left _).trans (List.perm_append_comm_assoc _ _ _))

/-- Every sequential order of calls is one of the ways in which they can overlap. -/
theorem interleaves_inOrder {calls order : List Operation} (h : order.Perm calls) :
    Interleaves t e (calls.map .start) (inOrder t e order) := by
  have hrun : Interleaves t e ([] ++ order.map .start) (inOrder t e order) :=
    .of_inOrder order (.done _)
  exact hrun.perm (h.map _)

theorem Interleaves.singleton {k : Pending} (h : Interleaves t e [k] final) :
    Interleaves t (advance t e k).1 (advance t e k).2.toList final := by
  generalize hpool : [k] = pool at h
  cases h with
  | done => cases hpool
  | @step _ _ before rest k' h =>
    obtain ⟨rfl, hk⟩ | ⟨-, hk⟩ := List.singleton_eq_append_iff.1 hpool
    · obtain ⟨rfl, rfl⟩ := List.cons.inj hk
      simpa using h
    · cases hk

theorem Interleaves.nil (h : Interleaves t e [] final) : final = e := by
  generalize hpool : ([] : List Pending) = pool at h
  cases h with
  | done => rfl
  | step k h => simp at hpool

theorem Interleaves.alone {op : Operation} (h : Interleaves t e [.start op] final) :
    final = (perform t e op).2 := by
  have hload : ∀ path, Interleaves t e [.start (.load path)] final →
      final = (perform t e (.load path)).2 := by
    intro path h
    rw [h.singleton.singleton.nil, perform, load, Traced.value_bind]
    rfl
  cases op with
  | load path => exact hload path h
  | install rules => exact h.singleton.nil
  | reload =>
    have hrest := h.singleton
    rw [advance] at hrest
    cases hpath : e.reloadPath? with
    | none =>
      rw [hpath] at hrest
      rw [reload_of_memory hpath, hrest.nil]
    | some path =>
      rw [hpath] at hrest
      rw [reload_of_path hpath, hload path hrest]

/-! ### One reload among other calls -/

def Installs (c : Config) (t : FileTree) (ops : List Operation) (l : LoadedRules) : Prop :=
  ∃ op ∈ ops, op.result? c t = some l

variable {c : Config} {others : List Operation} {pool before rest : List Pending}

theorem Installs.load {path : String} (h : .load path ∈ others) :
    Installs c t others ⟨some path, c.fileRules t path⟩ :=
  ⟨_, h, rfl⟩

theorem Installs.load_mem {l : LoadedRules} {path : String} (h : Installs c t others l)
    (hsource : l.source = some path) : .load path ∈ others := by
  obtain ⟨op, hop, hl⟩ := h
  cases op with
  | load p =>
    obtain rfl := Option.some_inj.1 hl
    obtain rfl := Option.some_inj.1 hsource
    exact hop
  | install rules =>
    obtain rfl := Option.some_inj.1 hl
    cases hsource
  | reload => cases hl

def Pending.Admitted (c : Config) (t : FileTree) (others : List Operation) : Pending → Prop
  | .start .reload => True
  | .start op => op ∈ others
  | .write l => Installs c t others l

/-- What holds while calls overlap, if the path of the reload is one that another call loads: what is
installed, now or by what is left to do, is the result of another call. -/
structure Bounded (c : Config) (t : FileTree) (others : List Operation) (e : Engine)
    (pool : List Pending) : Prop where
  config : e.config = c
  path : ∀ path, e.reloadPath? = some path → .load path ∈ others
  admitted : ∀ k ∈ pool, k.Admitted c t others
  installed : (∃ l, e.loaded = some l ∧ Installs c t others l) ∨
    ∃ k ∈ pool, k ≠ .start .reload

theorem bounded_start (hothers : .reload ∉ others) (hne : others ≠ [])
    (hpath : ∀ path, e.reloadPath? = some path → .load path ∈ others) :
    Bounded e.config t others e ((.reload :: others).map .start) where
  config := rfl
  path := hpath
  admitted := by
    intro k hk
    obtain ⟨op, hop, rfl⟩ := List.mem_map.1 hk
    rcases List.mem_cons.1 hop with rfl | hop
    · trivial
    · cases op with
      | load path => exact hop
      | install rules => exact hop
      | reload => exact absurd hop hothers
  installed := by
    obtain ⟨op, hop⟩ := List.exists_mem_of_ne_nil others hne
    refine .inr ⟨.start op, List.mem_map_of_mem (List.mem_cons_of_mem _ hop), ?_⟩
    rintro hreload
    obtain rfl := Pending.start.inj hreload
    exact hothers hop

variable {k : Pending}

theorem Bounded.write (h : Bounded c t others e (before ++ k :: rest)) {l : LoadedRules}
    (hl : Installs c t others l) :
    Bounded c t others { e with loaded := some l } (before ++ rest) where
  config := h.config
  path := fun _ hpath => hl.load_mem hpath
  admitted := fun k' hk' => h.admitted k' (by simp only [List.mem_append, List.mem_cons] at *; tauto)
  installed := .inl ⟨l, rfl, hl⟩

theorem Bounded.replace (h : Bounded c t others e (before ++ k :: rest)) {next : List Pending}
    (hnext : ∀ k' ∈ next, k'.Admitted c t others)
    (hrest : k ≠ .start .reload → ∃ k' ∈ next, k' ≠ .start .reload) :
    Bounded c t others e (before ++ next ++ rest) where
  config := h.config
  path := h.path
  admitted := by
    intro k' hk'
    rw [List.append_assoc, List.mem_append, List.mem_append] at hk'
    rcases hk' with hk' | hk' | hk'
    · exact h.admitted k' (List.mem_append_left _ hk')
    · exact hnext k' hk'
    · exact h.admitted k' (List.mem_append_right _ (List.mem_cons_of_mem _ hk'))
  installed := by
    refine h.installed.imp_right ?_
    rintro ⟨k', hk', hne⟩
    rcases List.mem_append.1 hk' with hk' | hk'
    · exact ⟨k', by simp [hk'], hne⟩
    · rcases List.mem_cons.1 hk' with rfl | hk'
      · obtain ⟨k'', hk'', hne'⟩ := hrest hne
        exact ⟨k'', by simp [hk''], hne'⟩
      · exact ⟨k', by simp [hk'], hne⟩

theorem Bounded.step (h : Bounded c t others e (before ++ k :: rest)) :
    Bounded c t others (advance t e k).1 (before ++ (advance t e k).2.toList ++ rest) := by
  have hk : k.Admitted c t others := h.admitted k (by simp)
  match k with
  | .write l =>
    rw [advance, Option.toList_none, List.append_nil]
    exact h.write hk
  | .start (.load path) =>
    refine h.replace (List.forall_mem_singleton.2 ?_) fun _ => ⟨_, List.mem_singleton_self _, nofun⟩
    rw [usableRules_value, h.config]
    exact .load hk
  | .start (.install rules) =>
    rw [advance, Option.toList_none, List.append_nil, loadRules_value, h.config]
    exact h.write ⟨_, hk, rfl⟩
  | .start .reload =>
    refine h.replace ?_ fun hne => absurd rfl hne
    intro k' hk'
    obtain ⟨path, hpath, rfl⟩ := Option.map_eq_some_iff.1 (Option.mem_toList.1 hk')
    exact h.path path hpath

theorem Interleaves.installs (h : Interleaves t e pool final) (hb : Bounded c t others e pool) :
    ∃ l, final.loaded = some l ∧ Installs c t others l := by
  induction h with
  | done e =>
    obtain hinstalled | ⟨k, hk, -⟩ := hb.installed
    · exact hinstalled
    · cases hk
  | step k h ih => exact ih hb.step

theorem exists_order {l : LoadedRules} (h : Installs e.config t others l) :
    ∃ order, order.Perm (.reload :: others) ∧ (inOrder t e order).loaded = some l := by
  obtain ⟨op, hop, hl⟩ := h
  obtain ⟨before, rest, rfl⟩ := List.append_of_mem hop
  refine ⟨.reload :: (before ++ rest) ++ [op], ?_, inOrder_loaded _ (by simp [hl])⟩
  rw [List.cons_append]
  refine .cons _ ?_
  rw [List.append_assoc]
  exact (List.perm_append_singleton op rest).append_left before

theorem inOrder_installs (hothers : .reload ∉ others) (hne : others ≠ []) {order : List Operation}
    (horder : order.Perm (.reload :: others)) :
    ∃ l, (inOrder t e order).loaded = some l ∧ Installs e.config t others l := by
  cases hlast : order.reverse.findSome? (Operation.result? e.config t) with
  | some l =>
    refine ⟨l, inOrder_loaded order hlast, ?_⟩
    obtain ⟨op, hop, hl⟩ := List.exists_of_findSome?_eq_some hlast
    rcases List.mem_cons.1 (horder.subset (List.mem_reverse.1 hop)) with rfl | hop
    · cases hl
    · exact ⟨op, hop, hl⟩
  | none =>
    obtain ⟨op, hop⟩ := List.exists_mem_of_ne_nil others hne
    have hnone := List.findSome?_eq_none_iff.1 hlast op
      (List.mem_reverse.2 (horder.symm.subset (List.mem_cons_of_mem _ hop)))
    exact absurd (Operation.eq_reload hnone ▸ hop) hothers

/-- The reload chooses its path, the other calls come, and then it installs the rules of that path. -/
theorem interleaves_reload_last {path : String} (hpath : e.reloadPath? = some path)
    (others : List Operation) :
    Interleaves t e (.start .reload :: others.map .start)
      (perform t (inOrder t e others) (.load path)).2 := by
  have hload : Interleaves t (inOrder t e others) ([] ++ [.start (.load path)])
      (perform t (inOrder t e others) (.load path)).2 := .of_perform _ (.done _)
  change Interleaves t e ([] ++ .start .reload :: others.map .start) _
  refine .step _ ?_
  rw [advance, hpath]
  change Interleaves t e ([.start (.load path)] ++ others.map .start) _
  exact .of_inOrder others hload

/-- A reload and other calls, the files being fixed, end in the rules of some sequential order of
them however they overlap: exactly if there are no other calls, or there is no file to load again at the
start, or one of the other calls loads that very file. -/
theorem reload_interleaves_iff (t : FileTree) (e : Engine) (others : List Operation)
    (hothers : .reload ∉ others) :
    (∀ final, Interleaves t e ((.reload :: others).map .start) final →
      ∃ order, order.Perm (.reload :: others) ∧
        final.source = (inOrder t e order).source ∧ final.ruleSet = (inOrder t e order).ruleSet) ↔
      others = [] ∨ e.reloadPath? = none ∨ ∃ path, e.reloadPath? = some path ∧ .load path ∈ others := by
  constructor
  · intro h
    by_contra hcond
    obtain ⟨hne, hsome, hnot⟩ : others ≠ [] ∧ e.reloadPath? ≠ none ∧
        ∀ path, e.reloadPath? = some path → .load path ∉ others := by
      simpa only [not_or, not_exists, not_and] using hcond
    obtain ⟨path, hpath⟩ := Option.ne_none_iff_exists'.1 hsome
    obtain ⟨order, horder, hsource, -⟩ := h _ (interleaves_reload_last hpath others)
    obtain ⟨l, hl, hinstalls⟩ := inOrder_installs (t := t) (e := e) hothers hne horder
    have hfinal : (perform t (inOrder t e others) (.load path)).2.source = some path := by
      rw [perform, load_value]
      rfl
    have hlast : (inOrder t e order).source = l.source := by
      rw [Engine.source, hl]
      rfl
    exact hnot path hpath (hinstalls.load_mem (hlast.symm.trans (hsource.symm.trans hfinal)))
  · intro hcond final hfinal
    by_cases hnil : others = []
    · subst hnil
      exact ⟨[.reload], .refl _, by rw [hfinal.alone]; exact ⟨rfl, rfl⟩⟩
    · have hpath : ∀ path, e.reloadPath? = some path → .load path ∈ others := by
        intro path hpath
        rcases hcond with h | h | ⟨path', hpath', hload⟩
        · exact absurd h hnil
        · rw [h] at hpath
          cases hpath
        · rw [hpath] at hpath'
          exact Option.some_inj.1 hpath' ▸ hload
      have hstart := bounded_start (t := t) hothers hnil hpath
      obtain ⟨l, hl, hinstalls⟩ := hfinal.installs hstart
      obtain ⟨order, horder, hloaded⟩ := exists_order hinstalls
      refine ⟨order, horder, ?_, ?_⟩
      · rw [Engine.source, Engine.source, hl, hloaded]
      · rw [Engine.ruleSet, Engine.ruleSet, hl, hloaded]

theorem reload_interleaves_of_same_file :
    let t : FileTree := ⟨[], []⟩
    let others : List Operation := [.install (.ofRules [Rule.new "A" "t"]), .load "rules.yaml"]
    .reload ∉ others ∧
    ∀ final, Interleaves t (new .usual) ((.reload :: others).map .start) final →
      ∃ order, order.Perm (.reload :: others) ∧
        final.source = (inOrder t (new .usual) order).source ∧
        final.ruleSet = (inOrder t (new .usual) order).ruleSet := by
  intro t others
  have hothers : .reload ∉ others := by simp [others]
  have hload : .load "rules.yaml" ∈ others := by simp [others]
  exact ⟨hothers, (reload_interleaves_iff t (new .usual) others hothers).2 (.inr (.inr ⟨_, rfl, hload⟩))⟩

/-- A rule-set from memory is installed after the reload has chosen its file, and does not stay. -/
theorem reload_replaces_later_install :
    let t : FileTree := ⟨[], []⟩
    let e := (perform t (new .usual) (.load "rules.yaml")).2
    let memory := RuleSet.ofRules [Rule.new "A" "t"]
    ∃ final, Interleaves t e [.start .reload, .start (.install memory)] final ∧
      final.source = some "rules.yaml" ∧
      ∀ order, order.Perm [.reload, .install memory] →
        (inOrder t e order).source = none ∧ (inOrder t e order).ruleSet = memory := by
  intro t e memory
  have hpath : e.reloadPath? = some "rules.yaml" := by
    change (perform t (new .usual) (.load "rules.yaml")).2.reloadPath? = _
    rw [perform, load_value]
    rfl
  have hadmits : e.config.Admits memory := by
    have hconfig : e.config = .usual := perform_config _
    rw [hconfig]
    rfl
  refine ⟨_, interleaves_reload_last hpath [.install memory], ?_, fun order horder => ?_⟩
  · rw [perform, load_value]
    rfl
  · obtain ⟨l, hl, op, hop, hresult⟩ :=
      inOrder_installs (t := t) (e := e) (by simp) (List.cons_ne_nil _ _) horder
    rw [List.mem_singleton.1 hop, Operation.result?, Config.kept_of_admits hadmits] at hresult
    obtain rfl := Option.some_inj.1 hresult
    rw [Engine.source, Engine.ruleSet, hl]
    exact ⟨rfl, rfl⟩

end Engine
end StorePolicy

import Mathlib.Data.List.Forall2
import StorePolicy.Decode.Content
import StorePolicy.Decode.YamlValue

/-!
# How records are read

A record is read entry by entry, but each field sees only the entries that name it: it is unset
if there is none and holds the reading of the only one otherwise. Two readers whose fields
agree on the entries of a record read it alike. Both facts are inductions over the
entries, with the step for one entry said by `enter`.
-/
namespace StorePolicy

theorem Read.bind_eq_ok {α β : Type} {x : Read α} {f : α → Read β} {b : β} :
    (x >>= f) = .ok b ↔ ∃ a, x = .ok a ∧ f a = .ok b := by
  cases x with
  | error e => simp [bind, Except.bind]
  | ok a => simp [bind, Except.bind]

theorem Read.map_eq_ok {α β : Type} {x : Read α} {f : α → β} {b : β} :
    x.map f = .ok b ↔ ∃ a, x = .ok a ∧ f a = b := by
  cases x with
  | error e => simp [Except.map]
  | ok a => simp [Except.map]

theorem Read.mapM_eq_ok_iff {α β : Type} {f : α → Read β} {xs : List α} {ys : List β} :
    xs.mapM f = .ok ys ↔ List.Forall₂ (fun x y => f x = .ok y) xs ys := by
  induction xs generalizing ys with
  | nil => cases ys <;> simp [pure, Except.pure]
  | cons x xs ih =>
    rw [List.mapM_cons, Read.bind_eq_ok]
    constructor
    · intro h
      obtain ⟨y, hy, h⟩ := h
      obtain ⟨rest, hrest, h⟩ := Read.bind_eq_ok.1 h
      obtain rfl : y :: rest = ys := by simpa [pure, Except.pure] using h
      exact .cons hy (ih.1 hrest)
    · intro h
      cases h with
      | cons hy hrest =>
        exact ⟨_, hy, Read.bind_eq_ok.2 ⟨_, ih.2 hrest, rfl⟩⟩

/-- A reader gives a certain value where the good case is at hand, and fails elsewhere. -/
def ReadsLike {α : Type} (good : Bool) (r : Read α) (a : α) : Prop :=
  if good then r = .ok a else ∀ b, r ≠ .ok b

theorem ReadsLike.bind {α β : Type} {g h : Bool} {r : Read α} {f : α → Read β} {a : α} {b : β}
    (hr : ReadsLike g r a) (hf : ReadsLike h (f a) b) : ReadsLike (g && h) (r >>= f) b := by
  cases g with
  | true =>
    rw [ReadsLike, if_pos rfl] at hr
    rw [hr, Bool.true_and]
    exact hf
  | false =>
    rw [ReadsLike, if_neg Bool.false_ne_true] at hr
    intro c hc
    obtain ⟨a', ha', -⟩ := Read.bind_eq_ok.1 hc
    exact hr a' ha'

theorem ReadsLike.mapM {α β : Type} {good : α → Bool} {f g : α → Read β} {xs : List α}
    {ys : List β} (hfg : ∀ x ∈ xs, ∀ y, f x = .ok y → ReadsLike (good x) (g x) y)
    (h : xs.mapM f = .ok ys) : ReadsLike (xs.all good) (xs.mapM g) ys := by
  induction xs generalizing ys with
  | nil => exact h
  | cons x xs ih =>
    rw [List.mapM_cons, Read.bind_eq_ok] at h
    obtain ⟨y, hy, h⟩ := h
    obtain ⟨rest, hrest, h⟩ := Read.bind_eq_ok.1 h
    obtain rfl : y :: rest = ys := by simpa [pure, Except.pure] using h
    have hxs := ih (fun z hz => hfg z (List.mem_cons_of_mem _ hz)) hrest
    rw [List.mapM_cons, List.all_cons]
    refine (hfg x List.mem_cons_self y hy).bind ?_
    rw [← Bool.and_true (xs.all good)]
    exact hxs.bind rfl

structure Dialect.Direct {ν : Type} (d : Dialect ν) : Prop where
  located : d.located = false
  skip : ∀ v, d.skip v = .ok ()

theorem YamlValue.direct : YamlValue.dialect.Direct := ⟨rfl, fun _ => rfl⟩

theorem Content.direct (w : Wording) : (Content.dialect w).Direct := ⟨rfl, fun _ => rfl⟩

namespace Dialect.Direct

variable {ν : Type} {d : Dialect ν} (hd : d.Direct)

include hd

theorem within_eq {α : Type} (step : Step) (r : Read α) : d.within step r = r := by
  simp [within, hd.located]

theorem list_eq {α : Type} (read : ν → Read α) (v : ν) :
    d.list read v = (do (← d.items v).mapM read) := by
  have hmap : ∀ (vs : List ν) (n : Nat),
      ((vs.zipIdx n).mapM fun p => read p.1) = vs.mapM read := by
    intro vs
    induction vs with
    | nil => intro n; rfl
    | cons v vs ih =>
      intro n
      simp only [List.zipIdx_cons, List.mapM_cons, ih (n + 1)]
  simp only [list, hd.within_eq, hmap]

theorem list_eq_ok {α : Type} {read : ν → Read α} {write : α → ν} {v : ν} {xs : List α}
    (hv : d.items v = .ok (xs.map write)) (h : ∀ x ∈ xs, read (write x) = .ok x) :
    d.list read v = .ok xs := by
  rw [hd.list_eq, hv]
  refine Read.bind_eq_ok.2 ⟨_, rfl, Read.mapM_eq_ok_iff.2 ?_⟩
  rw [List.forall₂_map_left_iff, List.forall₂_same]
  exact h

end Dialect.Direct

namespace Schema

variable {ν δ : Type}

def entriesOf (ps : List (String × ν)) : List (Entry ν) :=
  ps.map fun p => ⟨pure (.name p.1), .unknown, p.2⟩

def take (d : Dialect ν) (fields : List (Field ν δ)) (draft : δ) (p : String × ν) : Read δ :=
  match field? fields (.name p.1) with
  | none => pure draft
  | some f => if f.isSet draft then d.refuse (.duplicateField f.name) else f.set draft p.2

theorem fill_entriesOf {d : Dialect ν} (hd : d.Direct) (fields : List (Field ν δ))
    (ps : List (String × ν)) (draft : δ) :
    fill d fields (entriesOf ps) draft = ps.foldlM (take d fields) draft := by
  induction ps generalizing draft with
  | nil => rfl
  | cons p rest ih =>
    have hcons : entriesOf (p :: rest) = ⟨pure (.name p.1), .unknown, p.2⟩ :: entriesOf rest := rfl
    simp only [hcons, fill, List.foldlM_cons, take, hd.within_eq, hd.skip, ih]
    simp only [pure, Except.pure, bind, Except.bind]
    cases field? fields (.name p.1) with
    | none => rfl
    | some f =>
      simp only
      split
      · rfl
      · rfl

theorem label_of_fill {d : Dialect ν} {fields : List (Field ν δ)} {es : List (Entry ν)}
    {draft draft' : δ} (h : fill d fields es draft = .ok draft') :
    ∀ e ∈ es, ∃ l, e.label = .ok l := by
  induction es generalizing draft with
  | nil => simp
  | cons e rest ih =>
    rw [fill, Read.bind_eq_ok] at h
    obtain ⟨l, hl, h⟩ := h
    have hrest : ∃ mid, fill d fields rest mid = .ok draft' := by
      cases hf : field? fields l with
      | none =>
        simp only [hf] at h
        obtain ⟨_, _, h⟩ := Read.bind_eq_ok.1 h
        exact ⟨draft, h⟩
      | some f =>
        simp only [hf] at h
        split at h
        · cases h
        · obtain ⟨mid, _, h⟩ := Read.bind_eq_ok.1 h
          exact ⟨mid, h⟩
    obtain ⟨mid, hmid⟩ := hrest
    intro e' he'
    rcases List.mem_cons.1 he' with rfl | he'
    · exact ⟨l, hl⟩
    · exact ih hmid e' he'

theorem take_eq_ok_iff {d : Dialect ν} {fields : List (Field ν δ)} {draft draft' : δ}
    {p : String × ν} :
    take d fields draft p = .ok draft' ↔
      (field? fields (.name p.1) = none ∧ draft' = draft) ∨
        ∃ f, field? fields (.name p.1) = some f ∧ f.isSet draft = false ∧
          f.set draft p.2 = .ok draft' := by
  unfold take
  cases field? fields (.name p.1) with
  | none =>
    change Except.ok draft = Except.ok draft' ↔ _
    simp [@eq_comm δ draft']
  | some f =>
    cases hset : f.isSet draft with
    | true => simp [hset, Dialect.refuse]
    | false => simp [hset]

theorem take_of_eq_ok_iff {α : Type} {d : Dialect ν} {fields : List (Field ν δ)} {name : String}
    {required : Bool} {get : δ → Option α} {put : δ → α → δ} {read : ν → Read α} {draft mid : δ}
    {p : String × ν}
    (hf : field? fields (.name p.1) = some (.of name required get put read)) :
    take d fields draft p = .ok mid ↔ get draft = none ∧ ∃ a, read p.2 = .ok a ∧ put draft a = mid := by
  have hset : (Field.of name required get put read).isSet draft = false ↔ get draft = none := by
    cases h : get draft <;> simp [Field.of, h]
  have hread : (Field.of name required get put read).set draft p.2 = (read p.2).map (put draft) := rfl
  rw [take_eq_ok_iff, hf]
  constructor
  · intro h
    rcases h with ⟨h, -⟩ | ⟨f, hf', hunset, h⟩
    · cases h
    · obtain rfl := Option.some_inj.1 hf'
      rw [hread, Read.map_eq_ok] at h
      exact ⟨hset.1 hunset, h⟩
  · intro h
    obtain ⟨hunset, h⟩ := h
    refine Or.inr ⟨_, rfl, hset.2 hunset, ?_⟩
    rw [hread, Read.map_eq_ok]
    exact h

theorem foldlM_take_of_eq_ok_iff {α : Type} {d : Dialect ν} {fields : List (Field ν δ)} {name : String}
    {required : Bool} {get : δ → Option α} {put : δ → α → δ} {read : ν → Read α} {draft last : δ}
    {p : String × ν} {ps : List (String × ν)}
    (hf : field? fields (.name p.1) = some (.of name required get put read)) :
    (p :: ps).foldlM (take d fields) draft = .ok last ↔ get draft = none ∧
      ∃ a, read p.2 = .ok a ∧ ps.foldlM (take d fields) (put draft a) = .ok last := by
  rw [List.foldlM_cons, Read.bind_eq_ok]
  simp only [take_of_eq_ok_iff hf]
  constructor
  · intro h
    obtain ⟨mid, ⟨hnone, a, ha, rfl⟩, hrest⟩ := h
    exact ⟨hnone, a, ha, hrest⟩
  · intro h
    obtain ⟨hnone, a, ha, hrest⟩ := h
    exact ⟨_, ⟨hnone, a, ha, rfl⟩, hrest⟩

theorem exists_read_of_mem {α : Type} {d : Dialect ν} {fields : List (Field ν δ)} {name : String}
    {required : Bool} {get : δ → Option α} {put : δ → α → δ} {read : ν → Read α} {draft last : δ}
    {p : String × ν} {ps : List (String × ν)}
    (hf : field? fields (.name p.1) = some (.of name required get put read)) (hp : p ∈ ps)
    (h : ps.foldlM (take d fields) draft = .ok last) : ∃ a, read p.2 = .ok a := by
  induction ps generalizing draft with
  | nil => cases hp
  | cons q rest ih =>
    rw [List.foldlM_cons, Read.bind_eq_ok] at h
    obtain ⟨mid, hmid, hrest⟩ := h
    rcases List.mem_cons.1 hp with rfl | hp
    · obtain ⟨-, a, ha, -⟩ := (take_of_eq_ok_iff hf).1 hmid
      exact ⟨a, ha⟩
    · exact ih hp hrest

theorem foldlM_take_unnamed {d : Dialect ν} {fields : List (Field ν δ)} {p : String × ν}
    (hf : field? fields (.name p.1) = none) (ps : List (String × ν)) (draft : δ) :
    (p :: ps).foldlM (take d fields) draft = ps.foldlM (take d fields) draft := by
  have htake : take d fields draft p = .ok draft := take_eq_ok_iff.2 (.inl ⟨hf, rfl⟩)
  rw [List.foldlM_cons, htake]
  rfl

theorem missing?_eq_none_iff {fields : List (Field ν δ)} {draft : δ} :
    missing? fields draft = none ↔ ∀ f ∈ fields, f.required = true → f.isSet draft = true := by
  simp [missing?]

theorem finish_eq_ok_iff {α : Type} {s : Schema ν δ α} {d : Dialect ν} {draft : δ} {a : α} :
    s.finish d draft = .ok a ↔ missing? s.fields draft = none ∧ s.build draft = a := by
  unfold finish
  cases missing? s.fields draft with
  | none => simp [pure, Except.pure]
  | some name => simp [Dialect.refuse]

def valuesOf (named : String → Bool) (ps : List (String × ν)) : List ν :=
  (ps.filter fun p => named p.1).map Prod.snd

theorem valuesOf_cons (named : String → Bool) (p : String × ν) (ps : List (String × ν)) :
    valuesOf named (p :: ps) =
      if named p.1 then p.2 :: valuesOf named ps else valuesOf named ps := by
  unfold valuesOf
  rw [List.filter_cons]
  split
  · rfl
  · rfl

/-- What one field has to say about the entries of a record: `get` shows it in a draft, and the
other fields leave it alone. -/
structure Sees {α : Type} (fields : List (Field ν δ)) (f : Field ν δ) (get : δ → Option α)
    (read : ν → Read α) : Prop where
  found : ∀ s, f.named s = true → field? fields (.name s) = some f
  isSet : ∀ draft, f.isSet draft = (get draft).isSome
  set : ∀ draft v draft', f.set draft v = .ok draft' → ∃ a, read v = .ok a ∧ get draft' = some a
  other : ∀ s g, f.named s = false → field? fields (.name s) = some g →
    ∀ draft v draft', g.set draft v = .ok draft' → get draft' = get draft

/-- How the values under its names fill one field: it stays if there are none, and an unset one
takes the reading of the only one. -/
inductive Slot {α : Type} (read : ν → Read α) : List ν → Option α → Option α → Prop where
  | kept (o : Option α) : Slot read [] o o
  | filled {v : ν} {a : α} (h : read v = .ok a) : Slot read [v] none (some a)

namespace Slot

variable {α : Type} {read : ν → Read α} {vs : List ν} {v : ν} {a : α} {o o' : Option α}

theorem nil_iff : Slot read [] o o' ↔ o' = o := by
  constructor
  · intro h
    cases h
    rfl
  · intro heq
    subst heq
    exact .kept _

theorem set_iff : Slot read vs (some a) o ↔ vs = [] ∧ o = some a := by
  constructor
  · intro h
    cases h
    exact ⟨rfl, rfl⟩
  · intro h
    obtain ⟨rfl, rfl⟩ := h
    exact .kept _

theorem cons_iff : Slot read (v :: vs) o o' ↔
    o = none ∧ ∃ a, read v = .ok a ∧ Slot read vs (some a) o' := by
  constructor
  · intro h
    cases h
    exact ⟨rfl, _, ‹_›, .kept _⟩
  · intro h
    obtain ⟨rfl, a, ha, h⟩ := h
    obtain ⟨rfl, rfl⟩ := set_iff.1 h
    exact .filled ha

end Slot

theorem Sees.slot_fill {α : Type} {d : Dialect ν} {fields : List (Field ν δ)} {f : Field ν δ}
    {get : δ → Option α} {read : ν → Read α} (hf : Sees fields f get read)
    {ps : List (String × ν)} {draft draft' : δ}
    (h : ps.foldlM (take d fields) draft = .ok draft') :
    Slot read (valuesOf f.named ps) (get draft) (get draft') := by
  induction ps generalizing draft with
  | nil =>
    obtain rfl : draft = draft' := by simpa [pure, Except.pure] using h
    exact .kept _
  | cons p rest ih =>
    rw [List.foldlM_cons, Read.bind_eq_ok] at h
    obtain ⟨mid, hmid, hrest⟩ := h
    have hlast := ih hrest
    have hcase := take_eq_ok_iff.1 hmid
    rw [valuesOf_cons]
    cases hs : f.named p.1 with
    | true =>
      rw [hf.found p.1 hs] at hcase
      rcases hcase with ⟨hnone, -⟩ | ⟨g, hg, hunset, hset⟩
      · cases hnone
      · obtain rfl : f = g := Option.some_inj.1 hg
        obtain ⟨a, ha, hget⟩ := hf.set _ _ _ hset
        rw [hf.isSet] at hunset
        rw [hget] at hlast
        exact Slot.cons_iff.2 ⟨by simpa using hunset, a, ha, hlast⟩
    | false =>
      have hkeep : get mid = get draft := by
        rcases hcase with ⟨-, rfl⟩ | ⟨g, hg, -, hset⟩
        · rfl
        · exact hf.other p.1 g hs hg _ _ _ hset
      rw [if_neg Bool.false_ne_true, ← hkeep]
      exact hlast

/-- Two readers of one field: where `good` holds the second reads what the first does, and
elsewhere it fails. -/
structure Agrees (inner : ν → Prop) (good : String → ν → Bool) (f g : Field ν δ) : Prop where
  name : g.name = f.name
  aliases : g.aliases = f.aliases
  required : g.required = f.required
  isSet : g.isSet = f.isSet
  set : ∀ s draft v draft', f.named s = true → inner v → f.set draft v = .ok draft' →
    ReadsLike (good s v) (g.set draft v) draft'

section Agrees

variable {inner : ν → Prop} {good : String → ν → Bool} {fs gs : List (Field ν δ)}

theorem Agrees.named_eq {f g : Field ν δ} (h : Agrees inner good f g) (s : String) :
    g.named s = f.named s := by
  rw [Field.named, Field.named, h.name, h.aliases]

theorem field?_agrees (h : List.Forall₂ (Agrees inner good) fs gs) (s : String) :
    (field? fs (.name s) = none ∧ field? gs (.name s) = none) ∨
      ∃ f g, field? fs (.name s) = some f ∧ field? gs (.name s) = some g ∧
        f.named s = true ∧ Agrees inner good f g := by
  induction h with
  | nil => exact Or.inl ⟨rfl, rfl⟩
  | @cons f g fs gs hfg _ ih =>
    cases hs : f.named s with
    | true =>
      refine Or.inr ⟨f, g, ?_, ?_, hs, hfg⟩
      · simp [field?, hs]
      · simp [field?, hfg.named_eq, hs]
    | false => simpa [field?, hs, hfg.named_eq] using ih

theorem missing?_agrees (h : List.Forall₂ (Agrees inner good) fs gs) (draft : δ) :
    missing? gs draft = missing? fs draft := by
  unfold missing?
  induction h with
  | nil => rfl
  | @cons f g fs gs hfg _ ih =>
    simp only [List.find?_cons, hfg.required, hfg.isSet]
    split
    · simp [hfg.name]
    · exact ih

/-- Readers that agree fill the same draft from a record that is good, and the second fails on
any other. -/
theorem foldlM_take_agrees (h : List.Forall₂ (Agrees inner good) fs gs) (d d' : Dialect ν)
    (hgood : ∀ s v, field? fs (.name s) = none → good s v = true) {ps : List (String × ν)}
    (hps : ∀ p ∈ ps, inner p.2) {draft draft' : δ}
    (hfill : ps.foldlM (take d fs) draft = .ok draft') :
    ReadsLike (ps.all fun p => good p.1 p.2) (ps.foldlM (take d' gs) draft) draft' := by
  induction ps generalizing draft with
  | nil => exact hfill
  | cons p rest ih =>
    rw [List.foldlM_cons, Read.bind_eq_ok] at hfill
    obtain ⟨mid, hmid, hrest⟩ := hfill
    have hrest := ih (fun q hq => hps q (List.mem_cons_of_mem _ hq)) hrest
    have hfirst : ReadsLike (good p.1 p.2) (take d' gs draft p) mid := by
      rcases field?_agrees h p.1 with ⟨hf, hg⟩ | ⟨f, g, hf, hg, hs, hfg⟩
      · obtain rfl : mid = draft := by simpa [take_eq_ok_iff, hf] using hmid
        rw [hgood p.1 p.2 hf]
        exact take_eq_ok_iff.2 (Or.inl ⟨hg, rfl⟩)
      · obtain ⟨hunset, hset⟩ : f.isSet draft = false ∧ f.set draft p.2 = .ok mid := by
          simpa [take_eq_ok_iff, hf] using hmid
        have htake : take d' gs draft p = g.set draft p.2 := by
          simp [take, hg, hfg.isSet, hunset]
        rw [htake]
        exact hfg.set p.1 draft p.2 mid hs (hps p List.mem_cons_self) hset
    rw [List.foldlM_cons, List.all_cons]
    exact hfirst.bind hrest

end Agrees

theorem foldlM_take_filter (d : Dialect ν) (fields : List (Field ν δ)) (ps : List (String × ν))
    (draft : δ) (keep : String → Bool)
    (h : ∀ s, keep s = false → field? fields (.name s) = none) :
    (ps.filter fun p => keep p.1).foldlM (take d fields) draft =
      ps.foldlM (take d fields) draft := by
  induction ps generalizing draft with
  | nil => rfl
  | cons p rest ih =>
    cases hp : keep p.1 with
    | true => simp only [List.filter_cons, hp, if_true, List.foldlM_cons, ih]
    | false =>
      have htake : take d fields draft p = pure draft := by simp [take, h p.1 hp]
      simp only [List.filter_cons, hp, Bool.false_eq_true, if_false, List.foldlM_cons, htake, ih]
      rfl

end Schema
end StorePolicy

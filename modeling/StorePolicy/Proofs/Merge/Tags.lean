import StorePolicy.Proofs.Attempt
import StorePolicy.Proofs.Merge.Files

/-!
# Tags in documents

In a text a node has one tag at most, so a value that is read from a text never has a tag directly
on another tag. A merge keeps the tags of the document where they are and takes the candidates as they
are, so what it writes has no such value either. A printer may refuse values of that kind, and none
is ever given to it.
-/
namespace StorePolicy

def Value.isTagged : Value → Bool
  | .tagged _ _ => true
  | _ => false

inductive Value.TagsApart : Value → Prop where
  | null : TagsApart .null
  | bool (b : Bool) : TagsApart (.bool b)
  | int (i : Int) : TagsApart (.int i)
  | float (d : Double) : TagsApart (.float d)
  | str (s : String) : TagsApart (.str s)
  | seq {items : List Value} (h : ∀ v ∈ items, TagsApart v) : TagsApart (.seq items)
  | map {entries : List (Value × Value)} (hkeys : ∀ e ∈ entries, TagsApart e.1)
      (hvalues : ∀ e ∈ entries, TagsApart e.2) : TagsApart (.map entries)
  | tagged (tag : String) {v : Value} (hbare : v.isTagged = false) (h : TagsApart v) :
      TagsApart (.tagged tag v)

namespace Value

def Bare (v : Value) : Prop := v.TagsApart ∧ v.isTagged = false

def EntryApart (e : Value × Value) : Prop := e.1.TagsApart ∧ e.2.TagsApart

variable {v : Value} {vs : List Value} {es : List (Value × Value)}

theorem tagsApart_map (h : ∀ e ∈ es, EntryApart e) : TagsApart (.map es) :=
  .map (fun e he => (h e he).1) fun e he => (h e he).2

theorem TagsApart.of_items? (hv : v.TagsApart) (h : v.items? = some vs) :
    ∀ u ∈ vs, u.TagsApart := by
  induction hv with
  | seq hitems _ => exact Option.some_inj.1 h ▸ hitems
  | tagged tag _ _ ih => exact ih h
  | _ => cases h

theorem TagsApart.of_entries? (hv : v.TagsApart) (h : v.entries? = some es) :
    ∀ e ∈ es, EntryApart e := by
  induction hv with
  | map hkeys hvalues => exact Option.some_inj.1 h ▸ fun e he => ⟨hkeys e he, hvalues e he⟩
  | tagged tag _ _ ih => exact ih h
  | _ => cases h

theorem tagsApart_of_lookupKey {key : String} (hes : ∀ e ∈ es, EntryApart e)
    (h : lookupKey key es = some v) : v.TagsApart := by
  obtain ⟨before, after, rfl, -⟩ := Merge.exists_split_of_lookupKey h
  exact (hes (.str key, v) (by simp)).2

end Value

open Value

namespace Yaml

section Gives

variable {α β : Type} {r : Counted α} {P Q : α → Prop} {R : β → Prop}

/-- Whatever a reader gives, however many aliases it followed before, satisfies `P`. -/
def Gives (r : Counted α) (P : α → Prop) : Prop := ∀ n a m, r n = .ok (a, m) → P a

theorem gives_any (r : Counted α) : Gives r fun _ => True := fun _ _ _ _ => trivial

theorem gives_pure {a : α} (h : P a) : Gives (pure a) P := by
  intro n b m hb
  obtain ⟨rfl, -⟩ := Prod.mk.inj (Except.ok.inj hb)
  exact h

theorem gives_error (f : Nat → Failure) : Gives (fun n => .error (f n)) P := by
  intro n a m h
  cases h

theorem gives_malformed : Gives malformed P := gives_error _

theorem Gives.mono (hr : Gives r P) (h : ∀ a, P a → Q a) : Gives r Q :=
  fun n a m ha => h a (hr n a m ha)

theorem Gives.bind {f : α → Counted β} (hr : Gives r P) (hf : ∀ a, P a → Gives (f a) R) :
    Gives (r >>= f) R := by
  intro n b m hb
  change r n >>= (fun x => f x.1 x.2) = .ok (b, m) at hb
  obtain ⟨⟨a, k⟩, ha, hb⟩ := bind_eq_ok_iff.1 hb
  exact hf a (hr n a k ha) k b m hb

theorem Gives.unless {c : Prop} [Decidable c] (hr : Gives r P) :
    Gives (do
      if c then malformed
      r) P := by
  dsimp only
  split
  · exact gives_malformed.bind (P := fun _ => False) fun _ h => h.elim
  · exact hr

theorem Gives.inStep (step : Step) (hr : Gives r P) : Gives (inStep step r) P := by
  intro n a m h
  rw [Yaml.inStep] at h
  cases hn : r n with
  | error e => simp [hn, Except.mapError] at h
  | ok x => exact hr n a m (by simpa [hn, Except.mapError] using h)

theorem Gives.mapM {as : List β} {f : β → Counted α} (h : ∀ b ∈ as, Gives (f b) P) :
    Gives (as.mapM f) fun vs => ∀ v ∈ vs, P v := by
  induction as with
  | nil => exact gives_pure (by simp)
  | cons b as ih =>
    obtain ⟨hb, has⟩ := List.forall_mem_cons.1 h
    rw [List.mapM_cons]
    exact hb.bind fun v hv => (ih has).bind fun vs hvs =>
      gives_pure (List.forall_mem_cons.2 ⟨hv, hvs⟩)

theorem Gives.foldlM {as : List β} {f : α → β → Counted α} {a : α} (ha : P a)
    (h : ∀ b ∈ as, ∀ a, P a → Gives (f a b) P) : Gives (as.foldlM f a) P := by
  induction as generalizing a with
  | nil => exact gives_pure ha
  | cons b as ih =>
    obtain ⟨hb, has⟩ := List.forall_mem_cons.1 h
    rw [List.foldlM_cons]
    exact (hb a ha).bind fun a' ha' => ih ha' has

end Gives

section Scalars

variable {s : String} {v : Value}

theorem bare_of_intValue? {i : Int} (h : intValue? i = some v) : v.Bare := by
  rw [intValue?] at h
  split at h
  · obtain rfl := Option.some_inj.1 h
    exact ⟨.int i, rfl⟩
  · cases h

theorem bare_of_plainValue? (h : plainValue? s = some v) : v.Bare := by
  have hfloat : (if paddedDigits s.toList then Value.str s
      else ((floatText? s).map Value.float).getD (.str s)).Bare := by
    split
    · exact ⟨.str s, rfl⟩
    · cases floatText? s with
      | none => exact ⟨.str s, rfl⟩
      | some d => exact ⟨.float d, rfl⟩
  rw [plainValue?] at h
  split at h
  · obtain rfl := Option.some_inj.1 h
    exact ⟨.null, rfl⟩
  · split at h
    · next b _ =>
      obtain rfl := Option.some_inj.1 h
      exact ⟨.bool b, rfl⟩
    · dsimp only at h
      split at h
      · split at h
        · exact bare_of_intValue? h
        · exact Option.some_inj.1 h ▸ hfloat
      · exact Option.some_inj.1 h ▸ hfloat

theorem bare_of_scalarValue? {tag : Option String} {style : ScalarStyle}
    (h : scalarValue? tag style s = some v) : v.Bare := by
  have hspelled : (if style = .plain then plainValue? s else some (.str s)) = some v → v.Bare := by
    intro h
    split at h
    · exact bare_of_plainValue? h
    · obtain rfl := Option.some_inj.1 h
      exact ⟨.str s, rfl⟩
  cases tag with
  | none => exact hspelled h
  | some t =>
    simp only [scalarValue?] at h
    split at h
    · obtain ⟨b, -, rfl⟩ := Option.map_eq_some_iff.1 h
      exact ⟨.bool b, rfl⟩
    split at h
    · obtain ⟨i, -, hi⟩ := Option.bind_eq_some_iff.1 h
      exact bare_of_intValue? hi
    split at h
    · obtain ⟨d, -, rfl⟩ := Option.map_eq_some_iff.1 h
      exact ⟨.float d, rfl⟩
    split at h
    · split at h
      · obtain rfl := Option.some_inj.1 h
        exact ⟨.null, rfl⟩
      · cases h
    split at h
    · exact hspelled h
    · obtain rfl := Option.some_inj.1 h
      exact ⟨.str s, rfl⟩

end Scalars

/-- What a node is read as. Once its tag is taken off, a node has no other, unless it stands for
another node. -/
def ReadsApart (open_ : Bool) (n : Node) (v : Value) : Prop :=
  v.TagsApart ∧ (open_ = true → (∀ id, n ≠ .alias id) → v.isTagged = false)

section ReadValue

variable {open_ : Bool} {n : Node} {v : Value}

theorem readsApart_of_bare (h : v.Bare) : ReadsApart open_ n v := ⟨h.1, fun _ _ => h.2⟩

/-- A node with a tag is read once more with the tag off. -/
theorem gives_tagged {p : Purpose} {tag : Option String} {t : String} {r : Counted Value}
    (htag : (if open_ then none else localTag? tag) = some t) (hn : ∀ id, n ≠ .alias id)
    (hr : Gives r (ReadsApart true n)) :
    Gives (if p = .content then fun _ => .error ⟨.taggedContent, some []⟩
      else if t = "" then malformed
      else do return .tagged t (← r)) (ReadsApart open_ n) := by
  have hclosed : open_ ≠ true := by
    rintro rfl
    cases htag
  split
  · exact gives_error _
  split
  · exact gives_malformed
  · exact hr.bind fun v hv =>
      gives_pure ⟨.tagged t (hv.2 rfl hn) hv.1, fun hopen => absurd hopen hclosed⟩

theorem gives_items {items : List Node} {f : Node → Nat → Counted Value}
    (h : ∀ item i, Gives (f item i) TagsApart) :
    Gives (do
      let vs ← items.zipIdx.mapM fun (item, i) => f item i
      return .seq vs) Bare :=
  (Gives.mapM fun x _ => h x.1 x.2).bind fun _ hvs => gives_pure ⟨.seq hvs, rfl⟩

theorem gives_entries {p : Purpose} {entries : List (Node × Node)} {f g : Node × Node → Counted Value}
    (hf : ∀ e, Gives (f e) TagsApart) (hg : ∀ e, Gives (g e) TagsApart) :
    Gives (do
      let es ← entries.foldlM (fun done e => do
        let k ← f e
        if p = .value && hasKey k done then malformed
        let v ← g e
        return (k, v) :: done) []
      return .map es.reverse) Bare := by
  refine (Gives.foldlM (P := fun done => ∀ e ∈ done, EntryApart e) (by simp) ?_).bind
    fun es hes => gives_pure ⟨tagsApart_map fun e he => hes e (List.mem_reverse.1 he), rfl⟩
  intro e _ done hdone
  exact (hf e).bind fun k hk => ((hg e).bind fun v hv =>
    gives_pure (List.forall_mem_cons.2 ⟨⟨hk, hv⟩, hdone⟩)).unless

end ReadValue

theorem gives_readValue (d : Document) (p : Purpose) (fuel depth : Nat) (open_ : Bool) (n : Node) :
    Gives (readValue d p fuel depth open_ n) (ReadsApart open_ n) := by
  induction fuel generalizing depth open_ n with
  | zero => exact gives_malformed
  | succ fuel ih =>
    have hinner : ∀ (n : Node) depth, Gives (readValue d p fuel depth false n) TagsApart :=
      fun n depth => (ih depth false n).mono fun _ h => h.1
    cases n with
    | absent => exact gives_pure (readsApart_of_bare ⟨.null, rfl⟩)
    | broken => exact gives_malformed
    | «alias» id =>
      rw [readValue]
      refine (gives_any get).bind fun count _ => Gives.unless ((gives_any (set _)).bind fun _ _ => ?_)
      split
      · exact (hinner _ depth).mono fun v hv => ⟨hv, fun _ hn => absurd rfl (hn id)⟩
      · exact gives_malformed
    | scalar tag style s =>
      rw [readValue]
      dsimp only
      split
      · next htag => exact gives_tagged htag nofun (ih depth true _)
      split
      · next hv => exact gives_pure (readsApart_of_bare (bare_of_scalarValue? hv))
      · exact gives_malformed
    | seq tag items =>
      rw [readValue]
      dsimp only
      split
      · next htag => exact gives_tagged htag nofun (ih depth true _)
      split
      · exact gives_malformed
      · exact (gives_items fun item i => (hinner item (depth + 1)).inStep (.item i)).mono
          fun _ => readsApart_of_bare
    | map tag entries =>
      rw [readValue]
      dsimp only
      split
      · next htag => exact gives_tagged htag nofun (ih depth true _)
      split
      · exact gives_malformed
      · exact (gives_entries (fun e => hinner e.1 (depth + 1))
          fun e => (hinner e.2 (depth + 1)).inStep (keyStep e.1)).mono fun _ => readsApart_of_bare

/-- A value that is read from a text has no tag on another tag. -/
theorem tagsApart_of_parse? {text : String} {v : Value} (h : parse? text = some v) : v.TagsApart := by
  rw [parse?, Document.value?] at h
  split at h
  · have hread := eq_ok_of_toOption h
    rw [StateT.run'_eq, map_eq_pure_bind, bind_eq_ok_iff] at hread
    obtain ⟨⟨w, count⟩, hw, hv⟩ := hread
    obtain rfl := Except.ok.inj hv
    exact (gives_readValue _ _ _ _ _ _ 0 _ _ hw).1
  · cases h

end Yaml

namespace Merge

variable {v : Value} {vs : List Value} {es : List (Value × Value)}

theorem isTagged_withItems (vs : List Value) (v : Value) : (withItems vs v).isTagged = v.isTagged := by
  cases v <;> rfl

theorem isTagged_withEntries (es : List (Value × Value)) (v : Value) :
    (withEntries es v).isTagged = v.isTagged := by
  cases v <;> rfl

theorem tagsApart_withItems (hv : v.TagsApart) (hvs : ∀ u ∈ vs, u.TagsApart) :
    (withItems vs v).TagsApart := by
  induction hv with
  | tagged tag hbare _ ih => exact .tagged tag ((isTagged_withItems vs _).trans hbare) ih
  | _ => exact .seq hvs

theorem tagsApart_withEntries (hv : v.TagsApart) (hes : ∀ e ∈ es, EntryApart e) :
    (withEntries es v).TagsApart := by
  induction hv with
  | tagged tag hbare _ ih => exact .tagged tag ((isTagged_withEntries es _).trans hbare) ih
  | _ => exact tagsApart_map hes

theorem entryApart_setKey {key : String} {x : Value} (hx : x.TagsApart) (hes : ∀ e ∈ es, EntryApart e) :
    ∀ e ∈ setKey key x es, EntryApart e := by
  intro e he
  rcases mem_of_mem_setKey he with rfl | he
  · exact ⟨.str key, hx⟩
  · exact hes e he

theorem tagsApart_of_parseCandidates {text : String} {batch : List Value}
    (h : parseCandidates text = .ok batch) : ∀ c ∈ batch, c.TagsApart := by
  rw [parseCandidates] at h
  split at h
  · next v hv =>
    have hapart := Yaml.tagsApart_of_parse? hv
    unfold candidatesOf at h
    split at h
    · exact hapart.of_items? (congrArg some (Except.ok.inj h))
    · next entries =>
      split at h
      · next items hrules =>
        exact (tagsApart_of_lookupKey (hapart.of_entries? rfl) hrules).of_items?
          (congrArg some (Except.ok.inj h))
      · cases h
      · cases h
    · cases h
  · cases h

section Merged

variable {accs : List (String × Value)} {old : List Value}

theorem tagsApart_mergedRules (hold : ∀ v ∈ old, v.TagsApart)
    (haccs : ∀ e ∈ accs, e.2.TagsApart) : ∀ u ∈ mergedRules accs old, u.TagsApart := by
  have hlatest : ∀ id c, latest? id accs = some c → c.TagsApart :=
    fun id c hc => haccs (id, c) (mem_of_latest? hc)
  intro u hu
  rcases mem_mergedRules_iff.1 hu with ⟨v, hv, rfl⟩ | ⟨id, -, hid⟩
  · rcases successor_cases accs v with ⟨id, c, -, hc, hs⟩ | ⟨-, hs⟩
    · exact hs ▸ hlatest id c hc
    · exact hs.symm ▸ hold v hv
  · exact hlatest id u hid

theorem tagsApart_rulesOf (hes : ∀ e ∈ es, EntryApart e) : ∀ v ∈ rulesOf es, v.TagsApart := by
  rw [rulesOf]
  cases hlist : (lookupKey rulesKey es).bind Value.items? with
  | none => simp
  | some rules =>
    obtain ⟨list, hlookup, hitems⟩ := Option.bind_eq_some_iff.1 hlist
    exact (tagsApart_of_lookupKey hes hlookup).of_items? hitems

theorem entryApart_mergedEntries (hes : ∀ e ∈ es, EntryApart e) (haccs : ∀ e ∈ accs, e.2.TagsApart)
    (today : String) : ∀ e ∈ mergedEntries accs today es, EntryApart e := by
  have hensured : ∀ e ∈ ensureRules es, EntryApart e := by
    rw [ensureRules]
    split
    · exact entryApart_setKey (.seq (by simp)) hes
    · exact hes
  have hlist : ((lookupKey rulesKey (ensureRules es)).getD .null).TagsApart := by
    cases hlookup : lookupKey rulesKey (ensureRules es) with
    | none => exact .null
    | some list => exact tagsApart_of_lookupKey hensured hlookup
  have hrules := tagsApart_withItems hlist (tagsApart_mergedRules (tagsApart_rulesOf hes) haccs)
  rw [mergedEntries]
  split
  · exact entryApart_setKey hrules hensured
  · exact entryApart_setKey (.str today) (entryApart_setKey hrules hensured)

theorem tagsApart_emptyDocument : emptyDocument.TagsApart := by
  refine tagsApart_map ?_
  simp only [List.forall_mem_cons]
  exact ⟨⟨.str _, .str _⟩, ⟨.str _, .str _⟩, ⟨.str _, .seq (by simp)⟩, by simp⟩

theorem tagsApart_of_candidates {a : Acceptance} {today : String} {document new : Value}
    {batch : List Value} {r : MergeReport} (hdocument : document.TagsApart)
    (hbatch : ∀ c ∈ batch, c.TagsApart)
    (h : (candidates a today document batch).value = .ok (new, r)) : new.TagsApart := by
  have hmergeable := mergeable_of_candidates h
  have hbase : (base document).TagsApart := by
    unfold base
    split
    · exact tagsApart_emptyDocument
    · exact hdocument
  rw [candidates_eq hmergeable] at h
  obtain ⟨rfl, -⟩ := Prod.mk.inj (Except.ok.inj h)
  exact tagsApart_withEntries hbase (entryApart_mergedEntries
    (hbase.of_entries? hmergeable.base_entries.1)
    (fun e he => hbatch e.2 (mem_accepted_iff.1 he).1) today)

end Merged

end Merge

namespace RuleSetFile

theorem tagsApart_of_read {t : FileTree} {f : RuleSetFile} {document : Value}
    (hyaml : f.isJson = false) (h : (read t f).value = .ok document) : document.TagsApart := by
  rw [read_value, hyaml] at h
  split at h
  · split at h
    · cases h
    · rw [documentOf] at h
      split at h
      · exact Except.ok.inj h ▸ Merge.tagsApart_emptyDocument
      · rw [if_neg Bool.false_ne_true] at h
        split at h
        · next v hv =>
          obtain rfl := Except.ok.inj h
          split
          · exact Merge.tagsApart_emptyDocument
          · exact Yaml.tagsApart_of_parse? hv
        · cases h
  · exact Except.ok.inj h ▸ Merge.tagsApart_emptyDocument

/-- What is written to a file of YAML has no tag on another tag. -/
theorem tagsApart_of_merge {t : FileTree} {f : RuleSetFile} {today text : String}
    {document new : Value} {batch : List Value} {r : MergeReport} (hyaml : f.isJson = false)
    (hread : (read t f).value = .ok document) (hbatch : Merge.parseCandidates text = .ok batch)
    (h : (Merge.candidates f.acceptance today document batch).value = .ok (new, r)) :
    new.TagsApart :=
  Merge.tagsApart_of_candidates (tagsApart_of_read hyaml hread)
    (Merge.tagsApart_of_parseCandidates hbatch) h

end RuleSetFile
end StorePolicy

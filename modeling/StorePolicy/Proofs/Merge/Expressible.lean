import StorePolicy.Json.Outline
import StorePolicy.Merge.JsonForm
import StorePolicy.Proofs.Merge.Document
import StorePolicy.Proofs.Merge.Ids

/-!
# Documents that can be written as JSON

A value can be written as JSON if every key in it has a text, which is a property of its parts.
Everything that was read from JSON has it. So a merge into such a document gives one that can be
written exactly if the candidates that it brings can be.
-/
namespace StorePolicy.Merge

def Expressible (v : Value) : Prop := (toJson? v).isSome = true

def ExpressibleEntry (e : Value × Value) : Prop := (keyText? e.1).isSome = true ∧ Expressible e.2

variable {v : Value} {vs : List Value} {es : List (Value × Value)}

theorem toJsons?_isSome_iff : (toJsons? vs).isSome = true ↔ ∀ v ∈ vs, Expressible v := by
  induction vs with
  | nil => simp [toJsons?]
  | cons v vs ih =>
    rw [List.forall_mem_cons, ← ih, toJsons?, Expressible]
    cases toJson? v <;> cases toJsons? vs <;> simp

theorem toMembers?_isSome_iff : (toMembers? es).isSome = true ↔ ∀ e ∈ es, ExpressibleEntry e := by
  induction es with
  | nil => simp [toMembers?]
  | cons e es ih =>
    rw [List.forall_mem_cons, ← ih, toMembers?, ExpressibleEntry, Expressible]
    cases keyText? e.1 <;> cases toJson? e.2 <;> cases toMembers? es <;> simp

theorem expressible_seq_iff : Expressible (.seq vs) ↔ ∀ v ∈ vs, Expressible v := by
  rw [Expressible, toJson?, Option.isSome_map, toJsons?_isSome_iff]

theorem expressible_map_iff : Expressible (.map es) ↔ ∀ e ∈ es, ExpressibleEntry e := by
  rw [Expressible, toJson?, Option.isSome_map, toMembers?_isSome_iff]

theorem expressible_tagged_iff {tag : String} : Expressible (.tagged tag v) ↔ Expressible v := by
  rw [Expressible, toJson?, Option.isSome_map, Expressible]

theorem expressible_str (s : String) : Expressible (.str s) := rfl

theorem expressible_withItems_iff (list : Value) :
    Expressible (withItems vs list) ↔ ∀ v ∈ vs, Expressible v := by
  fun_induction withItems vs list with
  | case1 tag list ih => rw [expressible_tagged_iff, ih]
  | case2 => exact expressible_seq_iff

theorem expressible_withEntries_iff (document : Value) :
    Expressible (withEntries es document) ↔ ∀ e ∈ es, ExpressibleEntry e := by
  fun_induction withEntries es document with
  | case1 tag document ih => rw [expressible_tagged_iff, ih]
  | case2 => exact expressible_map_iff

theorem Expressible.of_entries? (h : Expressible v) (hes : v.entries? = some es) :
    ∀ e ∈ es, ExpressibleEntry e := by
  fun_induction Value.entries? v with
  | case1 es' =>
    obtain rfl := Option.some_inj.1 hes
    exact expressible_map_iff.1 h
  | case2 tag v ih => exact ih (expressible_tagged_iff.1 h) hes
  | case3 => cases hes

theorem Expressible.of_items? (h : Expressible v) (hvs : v.items? = some vs) :
    ∀ v ∈ vs, Expressible v := by
  fun_induction Value.items? v with
  | case1 vs' =>
    obtain rfl := Option.some_inj.1 hvs
    exact expressible_seq_iff.1 h
  | case2 tag v ih => exact ih (expressible_tagged_iff.1 h) hvs
  | case3 => cases hvs

section Outline

mutual
theorem expressible_of_value? {o : Json.Outline} {v : Value} (h : o.value? = some v) :
    Expressible v := by
  match o with
  | .null | .bool _ | .int _ | .float _ | .str _ =>
    obtain rfl := Option.some_inj.1 h
    rfl
  | .arr items =>
    obtain ⟨vs, hvs, rfl⟩ := Option.map_eq_some_iff.1 h
    exact expressible_seq_iff.2 (expressible_of_values? hvs)
  | .obj members =>
    obtain ⟨es, hes, rfl⟩ := Option.map_eq_some_iff.1 h
    exact expressible_map_iff.2 (expressible_of_entries? hes)
  | .broken => cases h
  | .unreadable _ => cases h

theorem expressible_of_values? {items : List Json.Outline} {vs : List Value}
    (h : Json.Outline.values? items = some vs) : ∀ v ∈ vs, Expressible v := by
  match items with
  | [] =>
    obtain rfl := Option.some_inj.1 h
    simp
  | o :: rest =>
    rw [Json.Outline.values?] at h
    split at h
    · next v vs hv hvs =>
      obtain rfl := Option.some_inj.1 h
      exact List.forall_mem_cons.2 ⟨expressible_of_value? hv, expressible_of_values? hvs⟩
    · cases h

theorem expressible_of_entries? {members : List (Option String × Json.Outline)}
    {es : List (Value × Value)} (h : Json.Outline.entries? members = some es) :
    ∀ e ∈ es, ExpressibleEntry e := by
  match members with
  | [] =>
    obtain rfl := Option.some_inj.1 h
    simp
  | (some k, o) :: rest =>
    rw [Json.Outline.entries?] at h
    split at h
    · next v es hv hes =>
      obtain rfl := Option.some_inj.1 h
      exact List.forall_mem_cons.2 ⟨⟨rfl, expressible_of_value? hv⟩, expressible_of_entries? hes⟩
    · cases h
  | (none, o) :: rest => cases h
end

end Outline

section SetKey

variable {key : String} {x : Value} {e : Value × Value}

theorem mem_setKey_self (key : String) (x : Value) (es : List (Value × Value)) :
    (.str key, x) ∈ setKey key x es := by
  induction es with
  | nil => exact List.mem_singleton_self _
  | cons e es ih =>
    rw [setKey_cons]
    split
    · exact List.mem_cons_self
    · exact List.mem_cons_of_mem _ ih

theorem mem_of_mem_setKey (h : e ∈ setKey key x es) : e = (.str key, x) ∨ e ∈ es := by
  induction es with
  | nil => exact Or.inl (List.mem_singleton.1 h)
  | cons e' es ih =>
    rw [setKey_cons] at h
    split at h
    · exact (List.mem_cons.1 h).imp_right (List.mem_cons_of_mem _)
    · rcases List.mem_cons.1 h with rfl | h
      · exact Or.inr List.mem_cons_self
      · exact (ih h).imp_right (List.mem_cons_of_mem _)

theorem mem_setKey_of_ne (h : e ∈ es) (hne : e.1 ≠ .str key) : e ∈ setKey key x es := by
  induction es with
  | nil => cases h
  | cons e' es ih =>
    rw [setKey_cons]
    rcases List.mem_cons.1 h with rfl | h
    · rw [if_neg fun hkey => hne (isKey_iff.1 hkey)]
      exact List.mem_cons_self
    · split
      · exact List.mem_cons_of_mem _ h
      · exact List.mem_cons_of_mem _ (ih h)

end SetKey

variable {accs : List (String × Value)} {old : List Value}

theorem expressible_mergedRules_iff (hold : ∀ v ∈ old, Expressible v) :
    (∀ u ∈ mergedRules accs old, Expressible u) ↔
      ∀ id v, latest? id accs = some v → Expressible v := by
  constructor
  · exact fun h id v hv => h v (mem_mergedRules_of_latest? hv)
  · intro h u hu
    rcases mem_mergedRules_iff.1 hu with ⟨v, hv, rfl⟩ | ⟨id, -, hid⟩
    · rcases successor_cases accs v with ⟨id, c, -, hc, hs⟩ | ⟨-, hs⟩
      · rw [hs]
        exact h id c hc
      · rw [hs]
        exact hold v hv
    · exact h id u hid

theorem expressible_rulesOf (h : ∀ e ∈ es, ExpressibleEntry e) : ∀ v ∈ rulesOf es, Expressible v := by
  rw [rulesOf]
  cases hlist : (lookupKey rulesKey es).bind Value.items? with
  | none => simp
  | some rules =>
    obtain ⟨list, hlookup, hitems⟩ := Option.bind_eq_some_iff.1 hlist
    obtain ⟨before, after, hes, -⟩ := exists_split_of_lookupKey hlookup
    have hentry := h (.str rulesKey, list) (by simp [hes])
    exact hentry.2.of_items? hitems

theorem expressible_mergedEntries_iff {today : String} (h : ∀ e ∈ es, ExpressibleEntry e) :
    (∀ e ∈ mergedEntries accs today es, ExpressibleEntry e) ↔
      ∀ id v, latest? id accs = some v → Expressible v := by
  rw [← expressible_mergedRules_iff (expressible_rulesOf h), mergedEntries]
  simp only [setKey_ensureRules]
  generalize (lookupKey rulesKey (ensureRules es)).getD .null = list
  have hrules : ExpressibleEntry (.str rulesKey, withItems (mergedRules accs (rulesOf es)) list) ↔
      ∀ u ∈ mergedRules accs (rulesOf es), Expressible u :=
    (and_iff_right rfl).trans (expressible_withItems_iff list)
  rw [← hrules]
  constructor
  -- the date is put under another key, so the rules are still there
  · intro hall
    refine hall _ ?_
    split
    · exact mem_setKey_self _ _ _
    · exact mem_setKey_of_ne (mem_setKey_self _ _ _)
        fun heq => dateKey_ne_rulesKey (Value.str.inj heq).symm
  · intro hentry e he
    have hinner : ∀ e ∈ setKey rulesKey (withItems (mergedRules accs (rulesOf es)) list) es,
        ExpressibleEntry e := by
      intro e he
      rcases mem_of_mem_setKey he with rfl | he
      · exact hentry
      · exact h e he
    split at he
    · exact hinner e he
    · rcases mem_of_mem_setKey he with rfl | he
      · exact ⟨rfl, expressible_str today⟩
      · exact hinner e he

theorem expressible_emptyDocument : Expressible emptyDocument := rfl

theorem expressible_base {document : Value} (h : Expressible document) :
    Expressible (base document) := by
  unfold base
  split
  · exact expressible_emptyDocument
  · exact h

/-- A merge into a document that can be written as JSON leaves one exactly if all candidates that
it brings can be written. -/
theorem expressible_merged_iff {document : Value} (hmergeable : Mergeable document)
    (h : Expressible document) (today : String) :
    Expressible (withEntries (mergedEntries accs today (baseEntries document))
        (base document)) ↔ ∀ id v, latest? id accs = some v → Expressible v := by
  rw [expressible_withEntries_iff,
    expressible_mergedEntries_iff ((expressible_base h).of_entries? hmergeable.base_entries.1)]

end StorePolicy.Merge

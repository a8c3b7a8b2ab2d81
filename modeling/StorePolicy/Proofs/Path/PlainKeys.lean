import StorePolicy.Path.Strategy
import StorePolicy.Proofs.Path.DottedKeys
import StorePolicy.Proofs.Path.Grammar

/-!
# Paths of plain keys

A key without blanks around it and without a mark in it stands for itself in both kinds of path. Such
keys with points between them are read alike as a JSON path and as a dotted path: as the list of these
keys, which are looked up one after the other.
-/
namespace StorePolicy.Path

open Text

/-- A key that is no mark of a path and has none in it. -/
structure PlainKey (k : List Char) : Prop where
  ne_nil : k ≠ []
  tight : Tight k
  unmarked : ∀ c ∈ k, c ≠ '.' ∧ c ≠ '[' ∧ c ≠ ']' ∧ c ≠ '$'
  star : k.head? ≠ some '*'

variable {k cs : List Char} {ks : List (List Char)}

namespace PlainKey

theorem not_point (h : PlainKey k) : '.' ∉ k := fun hmem => (h.unmarked _ hmem).1 rfl

theorem head (h : PlainKey k) : ∃ c rest, k = c :: rest ∧ c ≠ '.' ∧ c ≠ '$' ∧ c ≠ '*' := by
  cases k with
  | nil => exact absurd rfl h.ne_nil
  | cons c rest =>
    have hc := h.unmarked c List.mem_cons_self
    exact ⟨c, rest, rfl, hc.1, hc.2.2.2, by simpa using h.star⟩

theorem dottedKey (h : PlainKey k) : DottedKey k where
  ne_nil := h.ne_nil
  tight := h.tight
  not_point := h.not_point
  ne_root := fun hk => (h.unmarked '$' (by simp [hk])).2.2.2 rfl

theorem tight_append (h : PlainKey k) (hks : ∀ k ∈ ks, PlainKey k) : Tight (k ++ pointed ks) :=
  h.tight.append h.ne_nil (last_pointed fun k hk => (hks k hk).dottedKey)

theorem writtenName (h : PlainKey k) : WrittenName (String.ofList k) k where
  trimmed := by rw [h.tight.trim_eq, String.toList_ofList]
  ne_empty := by simpa using h.ne_nil
  unmarked := by
    intro c hc
    obtain ⟨hpoint, hopen, hclose, hroot⟩ := h.unmarked c hc
    exact ⟨by simp [endsName, hpoint, hopen], hclose, hroot⟩

end PlainKey

theorem written_pointed (h : ∀ k ∈ ks, PlainKey k) :
    Written (ks.map fun k => .key (String.ofList k)) (pointed ks) := by
  induction ks with
  | nil => exact .nil
  | cons k ks ih =>
    obtain ⟨hk, hks⟩ := List.forall_mem_cons.1 h
    exact .cons (.step (.key hk.writtenName hk.star)) (ih hks)

def plainTexts (ks : List (List Char)) : List (List Char) :=
  [['.'].intercalate ks, '$' :: '.' :: ['.'].intercalate ks]

theorem trim_plainTexts (hne : ks ≠ []) (h : ∀ k ∈ ks, PlainKey k) (hcs : cs ∈ plainTexts ks) :
    trim cs = cs := by
  cases ks with
  | nil => exact absurd rfl hne
  | cons k ks =>
    obtain ⟨hk, hks⟩ := List.forall_mem_cons.1 h
    have htight := hk.tight_append hks
    simp only [plainTexts, intercalate_cons, List.mem_cons, List.not_mem_nil, or_false] at hcs
    rcases hcs with rfl | rfl
    · exact htight.trim_eq
    · have hroot : Tight ['$', '.'] := tight_of_all (by decide)
      exact (hroot.append (List.cons_ne_nil _ _) htight.last).trim_eq

theorem segments?_plain {path : String} (hne : ks ≠ []) (h : ∀ k ∈ ks, PlainKey k)
    (hpath : path.toList ∈ plainTexts ks) :
    segments? path = some (ks.map fun k => .key (String.ofList k)) := by
  have htrim := trim_plainTexts hne h hpath
  rw [segments?_eq_some_iff]
  cases ks with
  | nil => exact absurd rfl hne
  | cons k ks =>
    obtain ⟨hk, hks⟩ := List.forall_mem_cons.1 h
    simp only [plainTexts, intercalate_cons, List.mem_cons, List.not_mem_nil, or_false] at hpath
    rcases hpath with hpath | hpath <;> rw [hpath] at htrim
    · exact .key (hpath ▸ htrim) hk.writtenName (written_pointed hks)
    · exact .root (hpath ▸ htrim) (written_pointed h)

theorem keysOf_plainTexts (hne : ks ≠ []) (h : ∀ k ∈ ks, PlainKey k) (hcs : cs ∈ plainTexts ks) :
    keysOf cs = ks := by
  have hdotted : ∀ k ∈ ks, DottedKey k := fun k hk => (h k hk).dottedKey
  have htrim := trim_plainTexts hne h hcs
  cases ks with
  | nil => exact absurd rfl hne
  | cons k ks =>
    obtain ⟨c, rest, rfl, -, hroot, -⟩ := (h k List.mem_cons_self).head
    simp only [plainTexts, List.mem_cons, List.not_mem_nil, or_false] at hcs
    rcases hcs with rfl | rfl
    · have hdrop : dropRoot (['.'].intercalate ((c :: rest) :: ks)) =
          ['.'].intercalate ((c :: rest) :: ks) := by
        rw [intercalate_cons]
        exact dropRoot_of_ne hroot _
      rw [keysOf, htrim, hdrop]
      exact parts_intercalate hdotted
    · exact keysOf_unmarked hdotted (by simpa using hroot)

@[simp]
theorem selectAll_nil (ss : List Segment) : Segment.selectAll ss [] = [] := by
  induction ss with
  | nil => rfl
  | cons s ss ih => exact ih

theorem selectAll_cons (s : Segment) (ss : List Segment) (j : Json) :
    Segment.selectAll (s :: ss) [j] = Segment.selectAll ss (s.select j) := by
  simp [Segment.selectAll]

theorem selectAll_map {α : Type} {segment : α → Segment} {enter : Json → α → Option Json}
    (h : ∀ a j, (segment a).select j = (enter j a).toList) (as : List α) (j : Json) :
    Segment.selectAll (as.map segment) [j] = (as.foldlM enter j).toList := by
  induction as generalizing j with
  | nil => rfl
  | cons a as ih =>
    rw [List.map_cons, selectAll_cons, h, List.foldlM_cons]
    cases enter j a with
    | none => simp
    | some v => exact ih v

theorem selectAll_keys (ks : List String) (j : Json) :
    Segment.selectAll (ks.map .key) [j] = (follow ks j).toList := by
  rw [follow_eq_foldlM]
  exact selectAll_map (fun _ _ => rfl) ks j

section Resolve

variable {names : List String} {path : String} {j : Json}

theorem first_eq_of_forall {strategies : List Strategy} {found : Option Json} (hne : strategies ≠ [])
    (h : ∀ s ∈ strategies, s.resolve j path = some found.toList) :
    first strategies j path = found := by
  induction strategies with
  | nil => exact absurd rfl hne
  | cons s rest ih =>
    obtain ⟨hs, hrest⟩ := List.forall_mem_cons.1 h
    cases found with
    | some v => simp [first, hs]
    | none =>
      cases rest with
      | nil => simp [first, hs]
      | cons t rest =>
        rw [first, hs]
        exact ih (List.cons_ne_nil t rest) hrest

theorem toList_mem_plainTexts
    (hpath : path = ".".intercalate names ∨ path = "$." ++ ".".intercalate names) :
    path.toList ∈ plainTexts (names.map String.toList) := by
  rcases hpath with rfl | rfl <;> simp [plainTexts, String.toList_intercalate]

theorem matches?_plain (hne : names ≠ []) (h : ∀ k ∈ names, PlainKey k.toList)
    (hpath : path.toList ∈ plainTexts (names.map String.toList)) (j : Json) :
    matches? j path = some (follow names j).toList := by
  have hne' : names.map String.toList ≠ [] := by simpa using hne
  have h' : ∀ k ∈ names.map String.toList, PlainKey k := by simpa using h
  have hsegments : segments? path = some (names.map .key) := by
    rw [segments?_plain hne' h' hpath]
    simp
  rw [matches?, hsegments, Option.map_some, selectAll_keys]

theorem walk_plain (hne : names ≠ []) (h : ∀ k ∈ names, PlainKey k.toList)
    (hpath : path.toList ∈ plainTexts (names.map String.toList)) (j : Json) :
    walk j path = follow names j := by
  have hne' : names.map String.toList ≠ [] := by simpa using hne
  have h' : ∀ k ∈ names.map String.toList, PlainKey k := by simpa using h
  have hkeys : keys path = names := by
    rw [keys, keysOf_plainTexts hne' h' hpath]
    simp
  rw [walk, hkeys]

/-- Every strategy reads plain keys with points between them, with or without the mark of the root, as
these keys one after the other, so it makes no difference which strategies are tried. -/
theorem strategies_agree (hne : names ≠ []) (h : ∀ k ∈ names, PlainKey k.toList)
    (hpath : path = ".".intercalate names ∨ path = "$." ++ ".".intercalate names) (j : Json) :
    (∀ s : Strategy, s.resolve j path = some (names.foldlM Json.get? j).toList) ∧
    first Strategy.usual j path = names.foldlM Json.get? j ∧
    first Strategy.dottedOnly j path = names.foldlM Json.get? j ∧
    reaches Strategy.usual j path = reaches Strategy.dottedOnly j path := by
  rw [← follow_eq_foldlM]
  have hmem := toList_mem_plainTexts hpath
  have hresolve : ∀ s : Strategy, s.resolve j path = some (follow names j).toList := by
    intro s
    cases s with
    | jsonPath => exact matches?_plain hne h hmem j
    | dotted => rw [Strategy.resolve, walk_plain hne h hmem]
  have husual : first Strategy.usual j path = follow names j :=
    first_eq_of_forall (List.cons_ne_nil _ _) fun s _ => hresolve s
  have hdotted : first Strategy.dottedOnly j path = follow names j :=
    first_eq_of_forall (List.cons_ne_nil _ _) fun s _ => hresolve s
  refine ⟨hresolve, husual, hdotted, ?_⟩
  simp only [reaches, husual, hdotted]

theorem strategies_agree_of_quoted_key :
    ["it's \"a\"", "ключ"] ≠ [] ∧ (∀ k ∈ ["it's \"a\"", "ключ"], PlainKey k.toList) ∧
    first Strategy.usual (.obj [("it's \"a\"", .obj [("ключ", .int 1)])]) "$.it's \"a\".ключ" =
      ["it's \"a\"", "ключ"].foldlM Json.get? (.obj [("it's \"a\"", .obj [("ключ", .int 1)])]) := by
  have hplain : ∀ k ∈ ["it's \"a\"", "ключ"], PlainKey k.toList := by
    intro k hk
    simp only [List.mem_cons, List.not_mem_nil, or_false] at hk
    rcases hk with rfl | rfl <;>
      exact ⟨by decide, ⟨by simp [isBlank], by simp [isBlank]⟩, by simp, by decide⟩
  exact ⟨by decide, hplain,
    (strategies_agree (by decide) hplain (.inr (by decide)) _).2.1⟩

end Resolve

end StorePolicy.Path

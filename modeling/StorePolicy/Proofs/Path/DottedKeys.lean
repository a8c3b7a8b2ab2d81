import StorePolicy.Path.Dotted
import StorePolicy.Proofs.Text.Trim

/-!
# Keys between points

Keys that have no point in them, no blanks around them and are no mark of the root can be joined with
points. When the joined text is split behind `$.` again, the mark of the root is cut off twice, so the
keys are the same exactly if the first of them does not begin with `$`. Different keys find different
values in some document.
-/
namespace StorePolicy.Path

open Text

structure DottedKey (k : List Char) : Prop where
  ne_nil : k ≠ []
  tight : Tight k
  not_point : '.' ∉ k
  ne_root : k ≠ ['$']

def pointed (ks : List (List Char)) : List Char := ks.flatMap ('.' :: ·)

def parts (cs : List Char) : List (List Char) := ((splitDots cs).map trim).filter isKey

/-- The smallest document with a value under keys one below the other. -/
def nest (ks : List String) : Json := ks.foldr (fun k j => .obj [(k, j)]) .null

section Splitting

variable {k cs body : List Char} {ks : List (List Char)}

theorem DottedKey.isKey_eq (h : DottedKey k) : isKey k = true := by
  simp [isKey, h.ne_nil, h.ne_root]

theorem intercalate_cons (k : List Char) (ks : List (List Char)) :
    ['.'].intercalate (k :: ks) = k ++ pointed ks := by
  induction ks generalizing k with
  | nil => simp [pointed]
  | cons l ks ih =>
    rw [List.intercalate_cons_cons, ih l]
    simp [pointed]

theorem last_pointed (h : ∀ k ∈ ks, DottedKey k) : ∀ c ∈ (pointed ks).getLast?, isBlank c = false := by
  induction ks with
  | nil => simp [pointed]
  | cons k ks ih =>
    obtain ⟨hk, hks⟩ := List.forall_mem_cons.1 h
    intro c hc
    have hpointed : pointed (k :: ks) = '.' :: (k ++ pointed ks) := rfl
    rw [hpointed, List.getLast?_cons_of_ne_nil (by simp [hk.ne_nil]), List.getLast?_append] at hc
    cases hlast : (pointed ks).getLast? with
    | none => exact hk.tight.last c (by simpa [hlast] using hc)
    | some b => exact ih hks c (by simpa [hlast] using hc)

theorem splitDots_append (hbody : '.' ∉ body) (cs : List Char) :
    splitDots (body ++ cs) = (splitDots cs).modifyHead (body ++ ·) := by
  induction body with
  | nil => exact (congrFun List.modifyHead_id _).symm
  | cons c body ih =>
    obtain ⟨hc, hbody⟩ := List.ne_and_not_mem_of_not_mem_cons hbody
    rw [List.cons_append, splitDots, if_neg hc.symm, ih hbody]
    cases hsplit : splitDots cs with
    | nil => exact absurd hsplit (splitDots_ne_nil cs)
    | cons part rest => rfl

@[simp]
theorem parts_point (cs : List Char) : parts ('.' :: cs) = parts cs := by
  simp [parts, splitDots, isKey, trim, trimLeft, trimRight]

theorem parts_pointed (hbody : '.' ∉ body) (h : ∀ k ∈ ks, DottedKey k) :
    parts (body ++ pointed ks) = [trim body].filter isKey ++ ks := by
  induction ks generalizing body with
  | nil =>
    have hsplit : splitDots (body ++ pointed []) = [body] := by
      rw [splitDots_append hbody]
      simp [pointed, splitDots]
    rw [parts, hsplit, List.map_singleton, List.append_nil]
  | cons k ks ih =>
    obtain ⟨hk, hks⟩ := List.forall_mem_cons.1 h
    have hrest : parts (k ++ pointed ks) = k :: ks := by
      rw [ih hk.not_point hks, hk.tight.trim_eq]
      simp [hk.isKey_eq]
    have hsplit : splitDots (body ++ pointed (k :: ks)) = body :: splitDots (k ++ pointed ks) := by
      have hpointed : pointed (k :: ks) = '.' :: (k ++ pointed ks) := rfl
      rw [hpointed, splitDots_append hbody, splitDots, if_pos rfl]
      simp
    calc parts (body ++ pointed (k :: ks))
        = ([trim body] ++ (splitDots (k ++ pointed ks)).map trim).filter isKey := by
          rw [parts, hsplit]
          rfl
      _ = [trim body].filter isKey ++ parts (k ++ pointed ks) := List.filter_append ..
      _ = [trim body].filter isKey ++ k :: ks := by rw [hrest]

theorem parts_intercalate (h : ∀ k ∈ ks, DottedKey k) : parts (['.'].intercalate ks) = ks := by
  cases ks with
  | nil => rfl
  | cons k ks =>
    obtain ⟨hk, hks⟩ := List.forall_mem_cons.1 h
    rw [intercalate_cons, parts_pointed hk.not_point hks, hk.tight.trim_eq]
    simp [hk.isKey_eq]

theorem trim_rooted (h : ∀ k ∈ ks, DottedKey k) :
    trim ('$' :: '.' :: ['.'].intercalate ks) = '$' :: '.' :: ['.'].intercalate ks := by
  have hroot : Tight ['$', '.'] := tight_of_all (by decide)
  have hlast : ∀ c ∈ (['.'].intercalate ks).getLast?, isBlank c = false := by
    cases ks with
    | nil => simp
    | cons k ks =>
      obtain ⟨hk, hks⟩ := List.forall_mem_cons.1 h
      rw [intercalate_cons]
      exact (hk.tight.append hk.ne_nil (last_pointed hks)).last
  exact (hroot.append (List.cons_ne_nil _ _) hlast).trim_eq

variable {c : Char}

theorem dropRoot_of_ne (hc : c ≠ '$') (cs : List Char) : dropRoot (c :: cs) = c :: cs := by
  simp [dropRoot, hc]

theorem dropRoot_root (hc : c ≠ '$') (cs : List Char) :
    dropRoot ('$' :: '.' :: c :: cs) = c :: cs := by
  simp [dropRoot, hc]

theorem keysOf_rooted (h : ∀ k ∈ ks, DottedKey k) :
    keysOf ('$' :: '.' :: ['.'].intercalate ks) =
      parts (dropRoot ('$' :: '.' :: ['.'].intercalate ks)) := by
  rw [keysOf, trim_rooted h]
  rfl

theorem keysOf_unmarked (h : ∀ k ∈ ks, DottedKey k) (hfirst : ∀ k ∈ ks.head?, k.head? ≠ some '$') :
    keysOf ('$' :: '.' :: ['.'].intercalate ks) = ks := by
  have hroot : dropRoot ('$' :: '.' :: ['.'].intercalate ks) = ['.'].intercalate ks := by
    cases ks with
    | nil => rfl
    | cons k ks =>
      obtain ⟨c, rest, rfl⟩ := List.exists_cons_of_ne_nil (h k List.mem_cons_self).ne_nil
      rw [intercalate_cons]
      exact dropRoot_root (by simpa using hfirst) _
  rw [keysOf_rooted h, hroot, parts_intercalate h]

theorem trim_ne_nil {c : Char} (hc : cs.getLast? = some c) (hblank : isBlank c = false) :
    trim cs ≠ [] := List.ne_nil_of_mem (mem_trim (List.mem_of_mem_getLast? hc) hblank)

/-- A mark at the beginning of the first key is taken for the mark of the root. -/
theorem keysOf_marked (h : ∀ k ∈ ('$' :: cs) :: ks, DottedKey k) :
    keysOf ('$' :: '.' :: ['.'].intercalate (('$' :: cs) :: ks)) =
      if trim cs = ['$'] then ks else trim cs :: ks := by
  obtain ⟨hk, hks⟩ := List.forall_mem_cons.1 h
  have hroot : dropRoot ('$' :: '.' :: ('$' :: cs ++ pointed ks)) = cs ++ pointed ks := rfl
  have hpoint : '.' ∉ cs := fun hmem => hk.not_point (List.mem_cons_of_mem _ hmem)
  have hne : trim cs ≠ [] := by
    cases hlast : cs.getLast? with
    | none =>
      obtain rfl : cs = [] := List.getLast?_eq_none_iff.1 hlast
      exact absurd rfl hk.ne_root
    | some c => exact trim_ne_nil hlast (hk.tight.last c (by simp [List.getLast?_cons, hlast]))
  rw [keysOf_rooted h, intercalate_cons, hroot, parts_pointed hpoint hks]
  by_cases hmark : trim cs = ['$']
  · rw [hmark, if_pos rfl]
    rfl
  · have hkey : isKey (trim cs) = true := by simp [isKey, hne, hmark]
    rw [if_neg hmark, List.filter_cons_of_pos hkey]
    rfl

end Splitting

section Following

variable {ks ls : List String} {j v : Json}

theorem get?_nest (k l : String) (ks : List String) :
    (nest (k :: ks)).get? l = if l = k then some (nest ks) else none := by
  by_cases h : l = k
  · simp [nest, Json.get?, Json.members?, h]
  · simp [nest, Json.get?, Json.members?, List.lookup_cons, beq_false_of_ne h, h]

theorem follow_nest_iff : follow ls (nest ks) = some .null ↔ ls = ks := by
  induction ks generalizing ls with
  | nil =>
    cases ls with
    | nil => simp [follow, nest]
    | cons l ls => simp [follow, nest, Json.get?, Json.members?]
  | cons k ks ih =>
    cases ls with
    | nil => simp [follow, nest]
    | cons l ls =>
      rw [follow, get?_nest]
      by_cases hl : l = k
      · simp [hl, ih]
      · simp [hl]

theorem follow_nest (ks : List String) : follow ks (nest ks) = some .null := follow_nest_iff.2 rfl

theorem follow_eq_foldlM (ks : List String) (j : Json) : follow ks j = ks.foldlM Json.get? j := by
  induction ks generalizing j with
  | nil => rfl
  | cons k ks ih => exact congrArg (j.get? k).bind (funext ih)

theorem followEntries_eq_foldlM (ks : List String) (v : Value) :
    followEntries ks v = ks.foldlM Value.get? v := by
  induction ks generalizing v with
  | nil => rfl
  | cons k ks ih => exact congrArg (v.get? k).bind (funext ih)

theorem get?_toValue (j : Json) (key : String) : j.toValue.get? key = (j.get? key).map Json.toValue := by
  cases j with
  | obj members => exact Json.get?_toEntries key members
  | _ => rfl

theorem followEntries_toValue (ks : List String) (j : Json) :
    followEntries ks j.toValue = (follow ks j).map Json.toValue := by
  induction ks generalizing j with
  | nil => rfl
  | cons k ks ih =>
    rw [followEntries, follow, get?_toValue]
    cases j.get? k with
    | none => rfl
    | some v => exact ih v

theorem forall_follow_eq_iff : (∀ j, follow ks j = follow ls j) ↔ ks = ls := by
  constructor
  · intro h
    exact follow_nest_iff.1 ((h (nest ls)).trans (follow_nest ls))
  · rintro rfl j
    rfl

theorem eq_null_of_toValue (h : v.toValue = .null) : v = .null := by
  cases v <;> first | rfl | cases h

theorem forall_followEntries_eq_iff : (∀ v, followEntries ks v = followEntries ls v) ↔ ks = ls := by
  constructor
  · intro h
    have himage := h (nest ls).toValue
    rw [followEntries_toValue, followEntries_toValue, follow_nest] at himage
    obtain ⟨v, hv, hnull⟩ := Option.map_eq_some_iff.1 himage
    rw [eq_null_of_toValue hnull] at hv
    exact follow_nest_iff.1 hv
  · rintro rfl v
    rfl

end Following

section Joined

variable {names rest : List String} {k path : String} {cs : List Char}

def FirstUnmarked (names : List String) : Prop := ∀ k ∈ names.head?, k.toList.head? ≠ some '$'

theorem toList_joined (names : List String) : ("$." ++ ".".intercalate names).toList =
    '$' :: '.' :: ['.'].intercalate (names.map String.toList) := by
  simp [String.toList_intercalate]

theorem keys_of_firstUnmarked (h : ∀ k ∈ names, DottedKey k.toList) (hfirst : FirstUnmarked names) :
    keys ("$." ++ ".".intercalate names) = names := by
  have hkeys : ∀ k ∈ names.map String.toList, DottedKey k := by simpa using h
  have hhead : ∀ k ∈ (names.map String.toList).head?, k.head? ≠ some '$' := by
    simpa [FirstUnmarked] using hfirst
  rw [keys, toList_joined, keysOf_unmarked hkeys hhead]
  simp

theorem keys_of_marked (h : ∀ l ∈ k :: rest, DottedKey l.toList) (hk : k.toList = '$' :: cs) :
    keys ("$." ++ ".".intercalate (k :: rest)) =
      if trim cs = ['$'] then rest else String.ofList (trim cs) :: rest := by
  have hkeys : ∀ l ∈ ('$' :: cs) :: rest.map String.toList, DottedKey l := by
    simpa [← hk] using h
  have hrest : (rest.map String.toList).map String.ofList = rest := by simp
  rw [keys, toList_joined, List.map_cons, hk, keysOf_marked hkeys]
  split
  · exact hrest
  · rw [List.map_cons, hrest]

theorem length_trim_le (cs : List Char) : (trim cs).length ≤ cs.length := by
  obtain ⟨before, after, -, -, hcs⟩ := exists_trim cs
  have hlength := congrArg List.length hcs
  simp only [List.length_append] at hlength
  omega

theorem keys_joined_eq_iff (h : ∀ k ∈ names, DottedKey k.toList) :
    keys ("$." ++ ".".intercalate names) = names ↔ FirstUnmarked names := by
  refine ⟨fun hkeys => ?_, keys_of_firstUnmarked h⟩
  cases names with
  | nil => simp [FirstUnmarked]
  | cons k rest =>
    intro l hl hmark
    obtain rfl : k = l := by simpa using hl
    obtain ⟨cs, hk⟩ := List.head?_eq_some_iff.1 hmark
    rw [keys_of_marked h hk] at hkeys
    split at hkeys
    · exact List.cons_ne_self k rest hkeys.symm
    · have hname : trim cs = '$' :: cs := by
        rw [← hk, ← (List.cons.inj hkeys).1, String.toList_ofList]
      have hlength := length_trim_le cs
      rw [hname, List.length_cons] at hlength
      omega

/-- Keys that are joined with points behind the mark of the root are split into the same keys, and
looked up one after the other in an object or in a mapping, exactly if the first key does not begin with
the mark. Otherwise that key is looked up without its mark, or not at all if nothing but another mark
is left of it. -/
theorem joined_keys_iff (h : ∀ k ∈ names, DottedKey k.toList)
    (hpath : path = "$." ++ ".".intercalate names) :
    (keys path = names ↔ FirstUnmarked names) ∧
    ((∀ j, walk j path = names.foldlM Json.get? j) ↔ FirstUnmarked names) ∧
    ((∀ v, walkEntries v path = names.foldlM Value.get? v) ↔ FirstUnmarked names) ∧
    ∀ k rest cs, names = k :: rest → k.toList = '$' :: cs →
      keys path = if trim cs = ['$'] then rest else String.ofList (trim cs) :: rest := by
  subst hpath
  refine ⟨keys_joined_eq_iff h, ?_, ?_, ?_⟩
  · rw [← keys_joined_eq_iff h, ← forall_follow_eq_iff]
    simp only [walk, follow_eq_foldlM]
  · rw [← keys_joined_eq_iff h, ← forall_followEntries_eq_iff]
    simp only [walkEntries, followEntries_eq_foldlM]
  · rintro k rest cs rfl hk
    exact keys_of_marked h hk

theorem joined_keys_of_later_mark :
    let names : List String := ["a $b", "$ref"]
    (∀ k ∈ names, DottedKey k.toList) ∧ FirstUnmarked names ∧ keys "$.a $b.$ref" = names := by
  intro names
  have hnames : ∀ k ∈ names, DottedKey k.toList := by
    intro k hk
    simp only [names, List.mem_cons, List.not_mem_nil, or_false] at hk
    rcases hk with rfl | rfl <;>
      exact ⟨by decide, ⟨by simp [isBlank], by simp [isBlank]⟩, by decide, by decide⟩
  have hfirst : FirstUnmarked names := by simp [FirstUnmarked, names]
  exact ⟨hnames, hfirst, (joined_keys_iff hnames (by decide)).1.2 hfirst⟩

/-- The key of a schema is looked up without its mark, and not found. -/
theorem joined_keys_lose_mark :
    (∀ k ∈ ["$schema"], DottedKey k.toList) ∧ "$." ++ ".".intercalate ["$schema"] = "$.$schema" ∧
      keys "$.$schema" = ["schema"] ∧
      walk (.obj [("$schema", .int 1)]) "$.$schema" = none ∧
      walkEntries (.map [(.str "$schema", .int 1)]) "$.$schema" = none := by
  have hkeys : keys "$.$schema" = ["schema"] := by decide
  refine ⟨?_, by decide, hkeys, ?_, ?_⟩
  · intro k hk
    obtain rfl : k = "$schema" := by simpa using hk
    exact ⟨by decide, ⟨by simp [isBlank], by simp [isBlank]⟩, by decide, by decide⟩
  · rw [walk, hkeys]
    rfl
  · rw [walkEntries, hkeys]
    rfl

end Joined

end StorePolicy.Path

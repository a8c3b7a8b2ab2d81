import Mathlib.Data.List.DropRight
import StorePolicy.Files.Tree

/-!
# Steps of a path

The steps of a path are its moves without those that stay. The steps of a joined path are those of
its two texts in order, the parent of a path lacks the last step, and a contained path steps down
only.
-/
namespace StorePolicy.Files

def stepsOf (parts : List (List Char)) : List Move := (parts.map Move.ofPart).filter (· ≠ .here)

def steps (path : String) : List Move := (moves path).filter (· ≠ .here)

section Parts

variable {part cs ds : List Char} {parts : List (List Char)}

theorem splitSlashes_ne_nil (cs : List Char) : splitSlashes cs ≠ [] := by
  fun_induction splitSlashes cs <;> simp

theorem splitSlashes_append_slash (cs ds : List Char) :
    splitSlashes (cs ++ '/' :: ds) = splitSlashes cs ++ splitSlashes ds := by
  induction cs with
  | nil => rfl
  | cons c cs ih =>
    rw [List.cons_append, splitSlashes, splitSlashes, ih]
    split
    · rfl
    · cases hcs : splitSlashes cs with
      | nil => exact absurd hcs (splitSlashes_ne_nil cs)
      | cons part parts => rfl

theorem splitSlashes_of_not_mem (h : '/' ∉ part) : splitSlashes part = [part] := by
  induction part with
  | nil => rfl
  | cons c cs ih =>
    obtain ⟨hc, hcs⟩ := List.ne_and_not_mem_of_not_mem_cons h
    rw [splitSlashes, if_neg hc.symm, ih hcs]

theorem not_mem_of_mem_splitSlashes (h : part ∈ splitSlashes cs) : '/' ∉ part := by
  induction cs generalizing part with
  | nil =>
    obtain rfl : part = [] := by simpa [splitSlashes] using h
    simp
  | cons c cs ih =>
    rw [splitSlashes] at h
    split at h
    · rcases List.mem_cons.1 h with rfl | h
      · simp
      · exact ih h
    · next hc =>
      cases hcs : splitSlashes cs with
      | nil => exact absurd hcs (splitSlashes_ne_nil cs)
      | cons first rest =>
        rw [hcs] at h ih
        rcases List.mem_cons.1 h with rfl | h
        · simp [Ne.symm hc, ih List.mem_cons_self]
        · exact ih (List.mem_cons_of_mem _ h)

theorem splitSlashes_joinSlashes (hne : parts ≠ []) (h : ∀ part ∈ parts, '/' ∉ part) :
    splitSlashes (joinSlashes parts) = parts := by
  induction parts with
  | nil => exact absurd rfl hne
  | cons part rest ih =>
    obtain ⟨hpart, hrest⟩ := List.forall_mem_cons.1 h
    cases rest with
    | nil => exact splitSlashes_of_not_mem hpart
    | cons next rest =>
      rw [joinSlashes, splitSlashes_append_slash, splitSlashes_of_not_mem hpart,
        ih (List.cons_ne_nil _ _) hrest]
      · rfl
      · simp

theorem head_of_splitSlashes_nil {rest : List (List Char)} (h : splitSlashes cs = [] :: rest) :
    cs = [] ∨ cs.head? = some '/' := by
  cases cs with
  | nil => exact .inl rfl
  | cons c cs =>
    rw [splitSlashes] at h
    split at h
    · next hc => exact .inr (congrArg some hc)
    · split at h <;> cases h

theorem ofPart_eq_here_iff : Move.ofPart part = .here ↔ Location.isIdle part = true := by
  unfold Move.ofPart Location.isIdle
  split
  · next hidle => simpa using hidle
  · next hidle => split <;> simpa using hidle

theorem stepsOf_append (parts parts' : List (List Char)) :
    stepsOf (parts ++ parts') = stepsOf parts ++ stepsOf parts' := by
  simp [stepsOf]

theorem stepsOf_idle (h : ∀ part ∈ parts, Location.isIdle part = true) : stepsOf parts = [] := by
  simpa [stepsOf, ofPart_eq_here_iff] using h

theorem stepsOf_ne_nil (hmem : part ∈ parts)
    (hidle : Location.isIdle part = false) : stepsOf parts ≠ [] := by
  refine List.ne_nil_of_mem (a := Move.ofPart part) ?_
  exact List.mem_filter.2 ⟨List.mem_map_of_mem hmem, by simp [ofPart_eq_here_iff, hidle]⟩

theorem stepsOf_singleton (h : Location.isIdle part = false) :
    stepsOf [part] = [Move.ofPart part] := by
  simp [stepsOf, ofPart_eq_here_iff, h]

theorem steps_eq (path : String) : steps path = stepsOf (splitSlashes path.toList) := rfl

theorem stepsOf_trimIdle (parts : List (List Char)) :
    stepsOf (Location.trimIdle parts) = stepsOf parts := by
  have hidle : stepsOf (parts.rtakeWhile Location.isIdle) = [] :=
    stepsOf_idle fun part hpart => List.mem_rtakeWhile_imp hpart
  have hparts : Location.trimIdle parts ++ parts.rtakeWhile Location.isIdle = parts :=
    List.rdropWhile_append_rtakeWhile ..
  nth_rewrite 2 [← hparts]
  rw [stepsOf_append, hidle, List.append_nil]

end Parts

namespace Location

variable {path base p : String} {cs : List Char} {parts : List (List Char)}

theorem front_cases (cs : List Char) :
    (∃ rest, cs.head? = some '/' ∧ splitSlashes cs = [] :: rest ∧ front cs = (some .root, rest)) ∨
    cs.head? ≠ some '/' ∧
      ((∃ rest, splitSlashes cs = ['.'] :: rest ∧ front cs = (some .here, rest)) ∨
        front cs = (none, splitSlashes cs)) := by
  cases hcs : splitSlashes cs with
  | nil => exact absurd hcs (splitSlashes_ne_nil cs)
  | cons first rest =>
    by_cases hslash : cs.head? = some '/'
    · obtain ⟨ds, rfl⟩ := List.head?_eq_some_iff.1 hslash
      obtain ⟨rfl, rfl⟩ : [] = first ∧ splitSlashes ds = rest := by simpa [splitSlashes] using hcs
      exact .inl ⟨_, rfl, rfl, rfl⟩
    · by_cases hpoint : first = ['.']
      · subst hpoint
        exact .inr ⟨hslash, .inl ⟨rest, rfl, by simp [front, hcs, hslash]⟩⟩
      · exact .inr ⟨hslash, .inr (by simp [front, hcs, hslash, hpoint])⟩

theorem stepsOf_front (cs : List Char) : stepsOf (front cs).2 = stepsOf (splitSlashes cs) := by
  obtain ⟨rest, -, hcs, hfront⟩ | ⟨-, ⟨rest, hcs, hfront⟩ | hfront⟩ := front_cases cs
  · rw [hfront, hcs]
    rfl
  · rw [hfront, hcs]
    rfl
  · rw [hfront]

theorem not_mem_of_mem_front {part : List Char} (h : part ∈ (front cs).2) : '/' ∉ part := by
  obtain ⟨rest, -, hcs, hfront⟩ | ⟨-, ⟨rest, hcs, hfront⟩ | hfront⟩ := front_cases cs
  · rw [hfront] at h
    exact not_mem_of_mem_splitSlashes (hcs ▸ List.mem_cons_of_mem _ h)
  · rw [hfront] at h
    exact not_mem_of_mem_splitSlashes (hcs ▸ List.mem_cons_of_mem _ h)
  · rw [hfront] at h
    exact not_mem_of_mem_splitSlashes h

theorem front_mem (cs : List Char) : (front cs).1 ∈ [none, some .root, some .here] := by
  obtain ⟨rest, -, -, hfront⟩ | ⟨-, ⟨rest, -, hfront⟩ | hfront⟩ := front_cases cs <;>
    simp [hfront]

theorem steps_assemble {first : Option Component} (hfirst : first ∈ [none, some .root, some .here])
    (h : ∀ part ∈ parts, '/' ∉ part) : steps (assemble first parts) = stepsOf parts := by
  simp only [List.mem_cons, List.not_mem_nil, or_false] at hfirst
  cases parts with
  | nil => rcases hfirst with rfl | rfl | rfl <;> rfl
  | cons part rest =>
    have hsplit := splitSlashes_joinSlashes (List.cons_ne_nil part rest) h
    rcases hfirst with rfl | rfl | rfl
    · have htext : (assemble none (part :: rest)).toList = joinSlashes (part :: rest) := by
        simp [assemble, frontText]
      rw [steps_eq, htext, hsplit]
    · have htext : (assemble (some .root) (part :: rest)).toList =
          [] ++ '/' :: joinSlashes (part :: rest) := by simp [assemble, frontText]
      rw [steps_eq, htext, splitSlashes_append_slash, hsplit]
      rfl
    · have htext : (assemble (some .here) (part :: rest)).toList =
          ['.'] ++ '/' :: joinSlashes (part :: rest) := by simp [assemble]
      rw [steps_eq, htext, splitSlashes_append_slash, hsplit]
      rfl

theorem isAbsolute_assemble (hparts : parts <+: (front path.toList).2) :
    assemble (front path.toList).1 parts = "" ∨
      isAbsolute (assemble (front path.toList).1 parts) = isAbsolute path := by
  have hpath : isAbsolute path = decide (path.toList.head? = some '/') := rfl
  obtain ⟨rest, hslash, hcs, hfront⟩ | ⟨hslash, ⟨rest, hcs, hfront⟩ | hfront⟩ :=
    front_cases path.toList
  · rw [hpath, decide_eq_true hslash, hfront]
    exact .inr (by simp [assemble, frontText, isAbsolute])
  · rw [hpath, decide_eq_false hslash, hfront]
    cases parts <;> exact .inr (by simp [assemble, frontText, isAbsolute])
  · rw [hpath, decide_eq_false hslash]
    rw [hfront] at hparts ⊢
    cases parts with
    | nil => exact .inl rfl
    | cons part kept =>
      obtain ⟨more, hcs⟩ := hparts
      cases part with
      | nil =>
        have hnil : path.toList = [] := (head_of_splitSlashes_nil hcs.symm).resolve_right hslash
        rw [hnil] at hcs
        obtain ⟨rfl, -⟩ : kept = [] ∧ more = [] := by simpa [splitSlashes] using hcs
        exact .inl rfl
      | cons c cs =>
        have hparts : (c :: cs) :: (kept ++ more) = splitSlashes path.toList := hcs
        have hc : '/' ∉ c :: cs := not_mem_of_mem_splitSlashes (hparts ▸ List.mem_cons_self)
        have hhead : c ≠ '/' := fun h => hc (h ▸ List.mem_cons_self)
        cases kept <;> exact .inr (by simp [assemble, frontText, isAbsolute, joinSlashes, hhead])

theorem join_of_relative (hbase : base ≠ "") (hpath : isAbsolute path = false) :
    join base path =
      if base.toList.getLast? = some '/' then base ++ path else base ++ "/" ++ path := by
  have hempty : base.isEmpty = false := by simpa using hbase
  simp [join, hpath, hempty]

theorem join_eq_empty_iff : join base path = "" ↔ base = "" ∧ path = "" := by
  by_cases hpath : isAbsolute path = true
  · have hne : path ≠ "" := by
      rintro rfl
      cases hpath
    rw [join_absolute base path hpath]
    simp [hne]
  · by_cases hbase : base = ""
    · simp [join, hbase]
    · rw [join_of_relative hbase (by simpa using hpath)]
      split <;> simp [hbase, String.append_eq_empty_iff]

theorem steps_join (hbase : base ≠ "") (hpath : isAbsolute path = false) :
    steps (join base path) = steps base ++ steps path := by
  rw [join_of_relative hbase hpath]
  split
  · next hslash =>
    obtain ⟨cs, hcs⟩ := List.getLast?_eq_some_iff.1 hslash
    have hpoint : stepsOf (splitSlashes []) = [] := rfl
    simp only [steps_eq, String.toList_append, hcs, List.append_assoc, List.singleton_append,
      splitSlashes_append_slash, stepsOf_append, hpoint, List.append_nil]
  · have htext : (base ++ "/" ++ path).toList = base.toList ++ '/' :: path.toList := by
      simp [String.toList_append]
    rw [steps_eq, htext, splitSlashes_append_slash, stepsOf_append, ← steps_eq, ← steps_eq]

theorem isAbsolute_join (hbase : base ≠ "") (hpath : isAbsolute path = false) :
    isAbsolute (join base path) = isAbsolute base := by
  have hne : base.toList ≠ [] := by simpa using hbase
  rw [join_of_relative hbase hpath]
  split <;> simp [isAbsolute, String.toList_append, List.head?_append_of_ne_nil _ hne]

theorem steps_of_isContained (h : isContained path = true) :
    isAbsolute path = false ∧ ∀ m ∈ steps path, ∃ name, m = .down name := by
  have hall : ∀ c ∈ components path, c.isInside = true := List.all_eq_true.1 h
  constructor
  · rw [← Bool.not_eq_true]
    intro hslash
    obtain ⟨rest, -, -, hfront⟩ | ⟨hrelative, -⟩ := front_cases path.toList
    · have hroot : Component.root ∈ components path := by simp [components, hfront]
      cases hall _ hroot
    · exact hrelative (of_decide_eq_true hslash)
  · intro m hm
    rw [steps_eq, ← stepsOf_front, stepsOf, List.mem_filter, List.mem_map] at hm
    obtain ⟨⟨part, hpart, rfl⟩, hhere⟩ := hm
    have hidle : isIdle part = false := by
      rw [← Bool.not_eq_true, ← ofPart_eq_here_iff]
      simpa using hhere
    have hmem : ofPart part ∈ components path := by
      refine List.mem_append_right _ (List.mem_map_of_mem ?_)
      exact List.mem_filter.2 ⟨hpart, by simp [hidle]⟩
    have hinside := hall _ hmem
    unfold ofPart at hinside
    split at hinside
    · cases hinside
    · next hclimb =>
      refine ⟨String.ofList part, ?_⟩
      unfold Move.ofPart
      rw [if_neg (by simpa [isIdle] using hidle), if_neg hclimb]

/-- A path without steps has no parent but the empty text. Any other lacks the last step in its
parent, which is what is left of the text when its end is cut. -/
theorem parent?_cases (path : String) :
    (steps path = [] ∧ ∀ p, parent? path = some p → p = "") ∨
      ∃ m parts, parts <+: (front path.toList).2 ∧
        parent? path = some (assemble (front path.toList).1 parts) ∧
        steps path = steps (assemble (front path.toList).1 parts) ++ [m] := by
  have htrim : trimIdle (front path.toList).2 <+: (front path.toList).2 := List.rdropWhile_prefix ..
  have hsteps : steps path = stepsOf (trimIdle (front path.toList).2) := by
    rw [stepsOf_trimIdle, stepsOf_front, steps_eq]
  unfold parent?
  simp only
  split
  · next hnil =>
    refine .inl ⟨by rw [hsteps, hnil]; rfl, fun p hp => ?_⟩
    split at hp <;> cases hp
    rfl
  · next hne =>
    have hlast : ¬isIdle ((trimIdle (front path.toList).2).getLast hne) = true :=
      List.rdropWhile_last_not _ _ hne
    have hkept : trimIdle (trimIdle (front path.toList).2).dropLast <+: (front path.toList).2 :=
      (List.rdropWhile_prefix ..).trans ((List.dropLast_prefix _).trans htrim)
    have hslash : ∀ part ∈ trimIdle (trimIdle (front path.toList).2).dropLast, '/' ∉ part :=
      fun part hpart => not_mem_of_mem_front (hkept.subset hpart)
    refine .inr ⟨Move.ofPart ((trimIdle (front path.toList).2).getLast hne), _, hkept, rfl, ?_⟩
    have hsplit : stepsOf (trimIdle (front path.toList).2) = _ :=
      congrArg stepsOf (List.dropLast_append_getLast hne).symm
    rw [steps_assemble (front_mem _) hslash, stepsOf_trimIdle, hsteps, hsplit, stepsOf_append,
      stepsOf_singleton (by simpa using hlast)]

theorem steps_parent? (h : parent? path = some p) :
    p = "" ∨ isAbsolute p = isAbsolute path ∧ ∃ m, steps path = steps p ++ [m] := by
  obtain ⟨-, hempty⟩ | ⟨m, parts, hparts, hparent, hsteps⟩ := parent?_cases path
  · exact .inl (hempty p h)
  · rw [h] at hparent
    cases hparent
    exact (isAbsolute_assemble hparts).imp_right fun habsolute => ⟨habsolute, m, hsteps⟩

end Location
end StorePolicy.Files

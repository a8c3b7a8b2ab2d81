import StorePolicy.Proofs.Files.Steps

/-!
# Files beside a file

A path that ends in a name has a step down for its last one, and when the name is replaced the
others stay.
-/
namespace StorePolicy

namespace Files

theorem stepsOf_eq_map (parts : List (List Char)) :
    stepsOf parts = (parts.filter fun p => !Location.isIdle p).map Move.ofPart := by
  rw [stepsOf, List.filter_map]
  congr 1
  refine List.filter_congr fun part _ => ?_
  cases hidle : Location.isIdle part with
  | true => simp [ofPart_eq_here_iff.2 hidle]
  | false =>
    have hne : Move.ofPart part ≠ .here := by simp [ne_eq, ofPart_eq_here_iff, hidle]
    simp [hne]

structure IsPlainName (name : String) : Prop where
  slash : '/' ∉ name.toList
  long : 2 < name.length

theorem IsPlainName.steps {name : String} (h : IsPlainName name) : steps name = [.down name] := by
  have hlong : 2 < name.toList.length := h.long
  have hidle : Location.isIdle name.toList = false := by
    rw [← Bool.not_eq_true]
    intro hidle
    have hcases : name.toList = [] ∨ name.toList = ['.'] := by
      simpa [Location.isIdle] using hidle
    rcases hcases with hnil | hpoint
    · simp [hnil] at hlong
    · simp [hpoint] at hlong
  have hclimb : name.toList ≠ ['.', '.'] := by
    intro hclimb
    simp [hclimb] at hlong
  rw [steps_eq, splitSlashes_of_not_mem h.slash, stepsOf_singleton hidle, Move.ofPart,
    if_neg (by simpa [Location.isIdle] using hidle), if_neg hclimb, String.ofList_toList]

theorem IsPlainName.isAbsolute {name : String} (h : IsPlainName name) :
    Location.isAbsolute name = false := by
  refine decide_eq_false fun hslash => h.slash ?_
  obtain ⟨rest, hrest⟩ := List.head?_eq_some_iff.1 hslash
  rw [hrest]
  exact List.mem_cons_self

namespace Location

variable {path old name : String}

theorem steps_of_fileName? (h : fileName? path = some old) :
    '/' ∉ old.toList ∧ ∃ before, steps path = before ++ [.down old] := by
  have hsteps : steps path =
      ((front path.toList).2.filter fun p => !isIdle p).map Move.ofPart := by
    rw [steps_eq, ← stepsOf_front, stepsOf_eq_map]
  unfold fileName? components at h
  simp only at h
  split at h
  · next s hlast =>
    obtain rfl := Option.some_inj.1 h
    obtain hnil | ⟨before, part, hparts⟩ :=
      List.eq_nil_or_concat ((front path.toList).2.filter fun p => !isIdle p)
    · have hfront := front_mem path.toList
      simp only [List.mem_cons, List.not_mem_nil, or_false] at hfront
      rcases hfront with hfront | hfront | hfront <;> simp [hnil, hfront] at hlast
    · rw [List.concat_eq_append] at hparts
      have hmem : part ∈ (front path.toList).2.filter fun p => !isIdle p := by simp [hparts]
      have hidle : isIdle part = false := by simpa using (List.mem_filter.1 hmem).2
      have hpart : ofPart part = .name s := by simpa [hparts] using hlast
      unfold ofPart at hpart
      split at hpart
      · cases hpart
      · next hclimb =>
        obtain rfl := Component.name.inj hpart
        refine ⟨?_, before.map Move.ofPart, ?_⟩
        · rw [String.toList_ofList]
          exact not_mem_of_mem_front (List.mem_filter.1 hmem).1
        · rw [hsteps, hparts, List.map_append, List.map_singleton, Move.ofPart,
            if_neg (by simpa [isIdle] using hidle), if_neg hclimb]
  · cases h

theorem steps_withFileName {before : List Move} (h : fileName? path = some old)
    (hlast : steps path = before ++ [.down old]) (hname : IsPlainName name) :
    steps (withFileName path name) = before ++ [.down name] ∧
      isAbsolute (withFileName path name) = isAbsolute path := by
  obtain ⟨hnil, -⟩ | ⟨m, parts, hparts, hparent, hsteps⟩ := parent?_cases path
  · simp [hnil] at hlast
  · obtain ⟨rfl, -⟩ := List.append_inj' (hlast.symm.trans hsteps) rfl
    rw [withFileName, h, hparent]
    simp only
    by_cases hempty : assemble (front path.toList).1 parts = ""
    · have hrelative : isAbsolute path = false := by
        obtain ⟨rest, -, -, hfront⟩ | ⟨hslash, -⟩ := front_cases path.toList
        · simp [hfront, assemble, frontText] at hempty
        · exact decide_eq_false hslash
      have hjoin : join "" name = name := by simp [join]
      rw [hempty, hjoin, hname.steps, hname.isAbsolute, hrelative]
      exact ⟨rfl, rfl⟩
    · rw [steps_join hempty hname.isAbsolute, hname.steps, isAbsolute_join hempty hname.isAbsolute]
      exact ⟨rfl, (isAbsolute_assemble hparts).resolve_left hempty⟩

end Location
end Files

end StorePolicy

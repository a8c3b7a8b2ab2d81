import Mathlib.Data.List.TakeWhile
import StorePolicy.Text.Blank

/-!
# Trimmed texts

A text is its trimmed text between blanks, and a text without blanks at its ends is all that is
left when the blanks around it are cut.
-/
namespace StorePolicy.Text

def Blanks (cs : List Char) : Prop := ∀ c ∈ cs, isBlank c = true

structure Tight (cs : List Char) : Prop where
  head : ∀ c ∈ cs.head?, isBlank c = false
  last : ∀ c ∈ cs.getLast?, isBlank c = false

variable {before cs after : List Char}

theorem tight_of_forall (h : ∀ c ∈ cs, isBlank c = false) : Tight cs :=
  ⟨fun c hc => h c (List.mem_of_mem_head? hc), fun c hc => h c (List.mem_of_mem_getLast? hc)⟩

theorem tight_of_all (h : cs.all (fun c => !isBlank c) = true) : Tight cs :=
  tight_of_forall (by simpa using h)

theorem trimLeft_eq_self (h : ∀ c ∈ cs.head?, isBlank c = false) : trimLeft cs = cs := by
  cases cs with
  | nil => rfl
  | cons c rest => exact List.dropWhile_cons_of_neg (by simp [h c rfl])

theorem trimRight_append (h : Blanks after) : trimRight (cs ++ after) = trimRight cs := by
  have hafter : ∀ c ∈ after.reverse, isBlank c = true := fun c hc => h c (List.mem_reverse.1 hc)
  rw [trimRight, List.reverse_append, List.dropWhile_append_of_pos hafter, trimRight]

theorem trimRight_eq_self (h : ∀ c ∈ cs.getLast?, isBlank c = false) : trimRight cs = cs := by
  rw [← List.head?_reverse] at h
  exact (congrArg List.reverse (trimLeft_eq_self h)).trans (List.reverse_reverse cs)

theorem trim_between (hbefore : Blanks before) (hafter : Blanks after) (h : Tight cs) :
    trim (before ++ cs ++ after) = cs := by
  rw [trim, trimLeft, List.append_assoc, List.dropWhile_append_of_pos hbefore, ← trimLeft]
  cases cs with
  | nil =>
    rw [List.nil_append, ← List.append_nil after, trimLeft, List.dropWhile_append_of_pos hafter]
    rfl
  | cons c rest =>
    rw [trimLeft_eq_self (by simpa using h.head), trimRight_append hafter,
      trimRight_eq_self h.last]

theorem Tight.trim_eq (h : Tight cs) : trim cs = cs := by
  have hnil : Blanks [] := by simp [Blanks]
  simpa using trim_between hnil hnil h

theorem Tight.append (h : Tight cs) (hne : cs ≠ [])
    (hafter : ∀ c ∈ after.getLast?, isBlank c = false) : Tight (cs ++ after) := by
  refine ⟨fun c hc => ?_, fun c hc => ?_⟩
  · cases cs with
    | nil => exact absurd rfl hne
    | cons b rest => exact h.head c hc
  · rw [List.getLast?_append] at hc
    cases hlast : after.getLast? with
    | none => exact h.last c (by simpa [hlast] using hc)
    | some b => exact hafter c (by simpa [hlast] using hc)

theorem Tight.eq_nil_of_before (h : Tight (before ++ cs)) (hbefore : Blanks before) :
    before = [] := by
  cases before with
  | nil => rfl
  | cons b rest =>
    have hb : isBlank b = true := hbefore b List.mem_cons_self
    rw [h.head b rfl] at hb
    cases hb

theorem Tight.eq_nil_of_after (h : Tight (cs ++ after)) (hafter : Blanks after) : after = [] := by
  rcases List.eq_nil_or_concat after with rfl | ⟨rest, b, rfl⟩
  · rfl
  · have hb : isBlank b = true := hafter b (by simp)
    rw [h.last b (by simp [← List.append_assoc])] at hb
    cases hb

theorem head_trimLeft (cs : List Char) : ∀ c ∈ (trimLeft cs).head?, isBlank c = false := by
  intro c hc
  have hne := List.head?_dropWhile_not isBlank cs
  rw [trimLeft] at hc
  rw [Option.mem_def.1 hc] at hne
  simpa using hne

theorem exists_trimRight (cs : List Char) : ∃ after, Blanks after ∧ cs = trimRight cs ++ after := by
  refine ⟨(cs.reverse.takeWhile isBlank).reverse, fun c hc => ?_, ?_⟩
  · exact List.mem_takeWhile_imp (List.mem_reverse.1 hc)
  · rw [trimRight, ← List.reverse_append, List.takeWhile_append_dropWhile, List.reverse_reverse]

theorem exists_trim (cs : List Char) :
    ∃ before after, Blanks before ∧ Blanks after ∧ cs = before ++ trim cs ++ after := by
  obtain ⟨after, hafter, hcs⟩ := exists_trimRight (trimLeft cs)
  refine ⟨cs.takeWhile isBlank, after, fun c hc => List.mem_takeWhile_imp hc, hafter, ?_⟩
  rw [trim, List.append_assoc, ← hcs, trimLeft, List.takeWhile_append_dropWhile]

theorem tight_trim (cs : List Char) : Tight (trim cs) := by
  refine ⟨?_, ?_⟩
  · intro c hc
    obtain ⟨after, -, hcs⟩ := exists_trimRight (trimLeft cs)
    refine head_trimLeft cs c ?_
    rw [trim] at hc
    rw [hcs, List.head?_append, Option.mem_def.1 hc]
    rfl
  · rw [trim, trimRight, List.getLast?_reverse]
    exact head_trimLeft _

theorem mem_of_mem_trim {c : Char} (h : c ∈ trim cs) : c ∈ cs := by
  obtain ⟨before, after, -, -, heq⟩ := exists_trim cs
  rw [heq]
  exact List.mem_append_left _ (List.mem_append_right _ h)

theorem mem_trim {c : Char} (h : c ∈ cs) (hc : isBlank c = false) : c ∈ trim cs := by
  obtain ⟨before, after, hbefore, hafter, heq⟩ := exists_trim cs
  rw [heq, List.mem_append, List.mem_append] at h
  rcases h with (h | h) | h
  · simp [hbefore c h] at hc
  · exact h
  · simp [hafter c h] at hc

theorem trimmed_trimmed (s : String) : trimmed (trimmed s) = trimmed s := by
  rw [trimmed, trimmed, String.toList_ofList, (tight_trim s.toList).trim_eq]

theorem blank_trimmed (s : String) : blank (trimmed s) = blank s := by
  obtain ⟨before, after, hbefore, hafter, hs⟩ := exists_trim s.toList
  have hall : (before ++ trim s.toList ++ after).all isBlank = (trim s.toList).all isBlank := by
    rw [List.all_append, List.all_append, List.all_eq_true.2 hbefore, List.all_eq_true.2 hafter,
      Bool.true_and, Bool.and_true]
  rw [blank, blank, trimmed, String.toList_ofList, ← hall, ← hs]

end StorePolicy.Text

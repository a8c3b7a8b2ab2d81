import StorePolicy.Proofs.Xml.PredicateText

/-!
# Text between brackets

Brackets and slashes in quotes are passed over alike by all who look for them. A predicate that is
written as it is meant closes its quotes and has brackets in quotes only, so it is found whole.
-/
namespace StorePolicy.Xml

open Text (Blanks Tight)

/-- A text in which quotes are closed and brackets stand in quotes only. -/
inductive Sealed : List Char → Prop
  | nil : Sealed []
  | plain {c : Char} {rest : List Char} (hquote : isQuote c = false) (hopen : c ≠ '[')
      (hclose : c ≠ ']') (h : Sealed rest) : Sealed (c :: rest)
  | quoted {q : Char} {v rest : List Char} (hq : isQuote q = true) (hv : q ∉ v)
      (h : Sealed rest) : Sealed (q :: (v ++ q :: rest))

section Scanning

variable {acc cur cs rest v w : List Char} {d : Nat} {q : Char}

theorem Sealed.append (hv : Sealed v) (hw : Sealed w) : Sealed (v ++ w) := by
  induction hv with
  | nil => exact hw
  | plain hquote hopen hclose _ ih => exact .plain hquote hopen hclose ih
  | quoted hq hv _ ih =>
    rw [List.cons_append, List.append_assoc, List.cons_append]
    exact .quoted hq hv ih

theorem sealed_of_plain (h : ∀ c ∈ cs, isQuote c = false ∧ c ≠ '[' ∧ c ≠ ']') : Sealed cs := by
  induction cs with
  | nil => exact .nil
  | cons c rest ih =>
    obtain ⟨⟨hquote, hopen, hclose⟩, hrest⟩ := List.forall_mem_cons.1 h
    exact .plain hquote hopen hclose (ih hrest)

theorem takeBracket_quoted (hv : q ∉ v) :
    takeBracket (some q) acc (v ++ q :: rest) =
      takeBracket none (q :: (v.reverse ++ acc)) rest := by
  induction v generalizing acc with
  | nil => simp [takeBracket, quoteAfter]
  | cons c v ih =>
    obtain ⟨hc, hv⟩ := List.ne_and_not_mem_of_not_mem_cons hv
    simp [takeBracket, quoteAfter, hc.symm, ih hv]

theorem Sealed.takeBracket (h : Sealed w) :
    takeBracket none acc (w ++ ']' :: rest) = some (acc.reverse ++ w, rest) := by
  induction h generalizing acc with
  | nil => simp [Xml.takeBracket]
  | plain hquote hopen hclose _ ih => simp [Xml.takeBracket, quoteAfter, hquote, hclose, ih]
  | @quoted q v w hq hv _ ih =>
    have hclose : q ≠ ']' := by
      rintro rfl
      cases hq
    rw [List.cons_append, List.append_assoc, List.cons_append]
    simp [Xml.takeBracket, quoteAfter, hq, hclose, takeBracket_quoted hv, ih]

theorem splitSteps_quoted (hv : q ∉ v) :
    splitSteps d (some q) cur (v ++ q :: rest) =
      splitSteps d none (q :: (v.reverse ++ cur)) rest := by
  induction v generalizing cur with
  | nil => simp [splitSteps, quoteAfter]
  | cons c v ih =>
    obtain ⟨hc, hv⟩ := List.ne_and_not_mem_of_not_mem_cons hv
    simp [splitSteps, quoteAfter, hc.symm, ih hv]

theorem Sealed.splitSteps (h : Sealed w) :
    splitSteps (d + 1) none cur (w ++ rest) = splitSteps (d + 1) none (w.reverse ++ cur) rest := by
  induction h generalizing cur with
  | nil => rfl
  | plain hquote hopen hclose _ ih => simp [Xml.splitSteps, hquote, hopen, hclose, ih]
  | quoted hq hv _ ih =>
    rw [List.cons_append, List.append_assoc, List.cons_append]
    simp [Xml.splitSteps, quoteAfter, hq, splitSteps_quoted hv, ih]

def Unsplit (w : List Char) : Prop :=
  ∀ cur rest, splitSteps 0 none cur (w ++ rest) = splitSteps 0 none (w.reverse ++ cur) rest

theorem unsplit_nil : Unsplit [] := fun _ _ => rfl

theorem Unsplit.append (hv : Unsplit v) (hw : Unsplit w) : Unsplit (v ++ w) := by
  intro cur rest
  rw [List.append_assoc, hv, hw, List.reverse_append, List.append_assoc]

theorem Sealed.unsplit_bracket (h : Sealed w) : Unsplit ('[' :: (w ++ [']'])) := by
  intro cur rest
  have hopen : isQuote '[' = false := rfl
  have hclose : isQuote ']' = false := rfl
  simp [Xml.splitSteps, hopen, hclose, h.splitSteps]

theorem unsplit_of_plain (h : ∀ c ∈ w, isQuote c = false ∧ c ≠ '[' ∧ c ≠ ']' ∧ c ≠ '/') :
    Unsplit w := by
  induction w with
  | nil => exact unsplit_nil
  | cons c w ih =>
    obtain ⟨⟨hquote, hopen, hclose, hslash⟩, hw⟩ := List.forall_mem_cons.1 h
    intro cur rest
    simp [splitSteps, hquote, hopen, hclose, hslash, ih hw _ rest]

end Scanning

section Bodies

variable {p : Predicate} {body name right : List Char} {v : String}

theorem plain_of_not_mem {c : Char} (h : c ∉ pathMarks) :
    isQuote c = false ∧ c ≠ '[' ∧ c ≠ ']' ∧ c ≠ '/' := by
  refine ⟨?_, ?_, ?_, ?_⟩
  · rw [← Bool.not_eq_true, isQuote_iff]
    rintro (rfl | rfl) <;> exact h (by decide)
  all_goals
    rintro rfl
    exact h (by decide)

theorem sealed_of_not_mem {cs : List Char} (h : ∀ c ∈ cs, c ∉ pathMarks) : Sealed cs :=
  sealed_of_plain fun c hc =>
    let ⟨hquote, hopen, hclose, _⟩ := plain_of_not_mem (h c hc)
    ⟨hquote, hopen, hclose⟩

theorem IsWord.sealed (h : IsWord name) : Sealed name :=
  sealed_of_not_mem fun c hc => not_mem_pathMarks (h.2 c hc)

theorem not_mem_pathMarks_of_isBlank {c : Char} (h : Text.isBlank c = true) : c ∉ pathMarks :=
  not_mem_pathMarks_of_all rfl h

theorem sealed_of_blanks {cs : List Char} (h : Blanks cs) : Sealed cs :=
  sealed_of_not_mem fun c hc => not_mem_pathMarks_of_isBlank (h c hc)

theorem Spelling.Assigns.sealed (h : Spelling.documented.Assigns v right) : Sealed right := by
  obtain ⟨hbefore, hafter, hq, hv⟩ := h
  refine (sealed_of_blanks hbefore).append (.plain rfl (by decide) (by decide) ?_)
  exact (sealed_of_blanks hafter).append (.quoted hq hv .nil)

theorem Predicate.Written.sealed (h : p.Written .documented body) : Sealed body := by
  cases h with
  | hasAttribute hname => exact .plain rfl (by decide) (by decide) (IsWord.sealed hname)
  | attributeIs hname hv =>
    exact .plain rfl (by decide) (by decide) ((IsWord.sealed hname).append hv.sealed)
  | hasChild hname hdigits hpoint => exact hname.sealed
  | childTextIs hname hpoint hv => exact (IsWord.sealed hname).append hv.sealed
  | textIs hv => exact .plain rfl (by decide) (by decide) hv.sealed
  | position hne hdigits hn hone hmax =>
    exact sealed_of_not_mem fun c hc =>
      not_mem_pathMarks_of_all rfl (List.all_eq_true.1 hdigits c hc)
  | last => exact sealed_of_plain (by simp [isQuote])

theorem Spelling.Assigns.isBlank_getLast (hv : Spelling.documented.Assigns v right) :
    ∀ c ∈ right.getLast?, Text.isBlank c = false := by
  obtain ⟨begin, q, rfl, hq, -⟩ := hv.exists_concat
  intro c hc
  rw [List.getLast?_concat] at hc
  exact Option.some_inj.1 hc ▸ isBlank_of_isQuote hq

theorem Predicate.Written.tight (h : p.Written .documented body) : Tight body := by
  cases h with
  | hasAttribute hname => exact (tight_of_accepted_attribute (.inl hname)).1
  | attributeIs hname hv =>
    exact (tight_of_accepted_attribute (.inl hname)).1.append (by simp) hv.isBlank_getLast
  | hasChild hname hdigits hpoint => exact tight_of_isPathNameChar hname.2
  | childTextIs hname hpoint hv =>
    exact (tight_of_isPathNameChar hname.2).append hname.1 hv.isBlank_getLast
  | textIs hv =>
    have hpoint : Tight ['.'] := Text.tight_of_all rfl
    exact hpoint.append (by simp) hv.isBlank_getLast
  | position hne hdigits hn hone hmax =>
    have hblank : ∀ c ∈ body, Text.isBlank c = false := fun c hc => by
      have hdigit := List.all_eq_true.1 hdigits c hc
      rw [← Bool.not_eq_true]
      intro hb
      have hletter := Text.isAlphanum_of_isBlank hb
      simp [Char.isAlphanum, hdigit] at hletter
    exact Text.tight_of_forall hblank
  | last => exact Text.tight_of_all rfl

end Bodies

end StorePolicy.Xml

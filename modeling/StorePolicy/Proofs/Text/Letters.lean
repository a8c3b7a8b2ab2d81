import StorePolicy.Text.Blank
import StorePolicy.Text.Letters

/-!
# Letters and blanks

The ranges of a table stand in its text one after the other, and what bisection finds lies in one
of them. The table of letters and digits has no character in common with the table of blanks.
-/
namespace StorePolicy.Text

namespace Ranges

theorem exists_mem_of_find {spans : Array (Nat × Nat)} {n lo hi : Nat}
    (h : find spans n lo hi = true) : ∃ r ∈ spans, r.1 ≤ n ∧ n ≤ r.2 := by
  fun_induction find spans n lo hi with
  | case1 => cases h
  | case2 lo hi hlt mid a b hmid hbelow ih => exact ih h
  | case3 lo hi hlt mid a b hmid hbelow habove ih => exact ih h
  | case4 lo hi hlt mid a b hmid hbelow habove =>
    exact ⟨(a, b), Array.mem_of_getElem? hmid, Nat.le_of_not_lt hbelow, Nat.le_of_not_lt habove⟩
  | case5 => cases h

def spanOf : Option Nat → Option Nat → List (Nat × Nat)
  | some a, some b => [(a, b)]
  | none, some b => [(b, b)]
  | _, none => []

def spansIn (first current : Option Nat) : List Char → List (Nat × Nat)
  | [] => spanOf first current
  | c :: rest =>
    match hexDigit? c with
    | some d => spansIn first (some (current.getD 0 * 16 + d)) rest
    | none =>
      if c = '-' then spansIn current none rest
      else spanOf first current ++ spansIn none none rest

variable {done : Array (Nat × Nat)} {first current : Option Nat}

theorem toList_close :
    (read.close done first current).toList = done.toList ++ spanOf first current := by
  cases first <;> cases current <;> simp [read.close, spanOf]

theorem toList_read (cs : List Char) :
    (read done first current cs).toList = done.toList ++ spansIn first current cs := by
  induction cs generalizing done first current with
  | nil => exact toList_close
  | cons c rest ih =>
    rw [read, spansIn]
    cases hexDigit? c with
    | some d => exact ih
    | none =>
      simp only
      split
      · exact ih
      · rw [ih, toList_close, List.append_assoc]

theorem toList_spans_ofText (cs : List Char) :
    (ofText (String.ofList cs)).spans.toList = spansIn none none cs := by
  rw [ofText, String.toList_ofList, toList_read, List.nil_append]

end Ranges

set_option maxRecDepth 50000 in
theorem alphanumericRanges_apart :
    ∀ r ∈ alphanumericRanges, ∀ b ∈ blankRanges, r.2 < b.1 ∨ b.2 < r.1 := by
  -- the text of the table is taken apart into characters once, and not again for every range
  have hread : alphanumericRanges.toList = Ranges.spansIn none none _ :=
    Ranges.toList_spans_ofText _
  have hall : (alphanumericRanges.toList.all fun r =>
      blankRanges.toList.all fun b => r.2 < b.1 || b.2 < r.1) = true := by
    rw [hread]
    decide +kernel
  intro r hr b hb
  have hapart := List.all_eq_true.1 (List.all_eq_true.1 hall r (Array.mem_toList_iff.2 hr)) b
    (Array.mem_toList_iff.2 hb)
  simpa using hapart

theorem exists_mem_blankRanges {c : Char} (h : isBlank c = true) :
    ∃ b ∈ blankRanges, b.1 ≤ c.toNat ∧ c.toNat ≤ b.2 := by
  simp only [isBlank, Bool.or_eq_true, Bool.and_eq_true, decide_eq_true_eq, beq_iff_eq] at h
  simp only [blankRanges, List.mem_toArray, List.mem_cons, List.not_mem_nil, or_false,
    exists_eq_or_imp, exists_eq_left]
  omega

theorem isAlphanum_of_isBlank {c : Char} (h : isBlank c = true) : c.isAlphanum = false := by
  simp only [isBlank, Bool.or_eq_true, Bool.and_eq_true, decide_eq_true_eq, beq_iff_eq] at h
  delta Char.isAlphanum Char.isAlpha Char.isUpper Char.isLower Char.isDigit
  simp only [Bool.or_eq_false_iff, Bool.and_eq_false_imp, decide_eq_true_eq,
    decide_eq_false_iff_not, ge_iff_le, UInt32.le_iff_toNat_le]
  have hvalue : c.val.toNat = c.toNat := rfl
  simp only [hvalue, Char.reduceVal, UInt32.reduceToNat]
  omega

theorem isAlphanumeric_of_isBlank {c : Char} (h : isBlank c = true) : isAlphanumeric c = false := by
  obtain ⟨b, hb, hlow, hhigh⟩ := exists_mem_blankRanges h
  unfold isAlphanumeric
  split
  · exact isAlphanum_of_isBlank h
  · rw [← Bool.not_eq_true]
    intro hfind
    obtain ⟨r, hr, hrlow, hrhigh⟩ := Ranges.exists_mem_of_find hfind
    have hapart := alphanumericRanges_apart r hr b hb
    omega

end StorePolicy.Text

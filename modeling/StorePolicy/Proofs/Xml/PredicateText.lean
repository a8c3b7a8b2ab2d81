import Mathlib.Data.List.Basic
import StorePolicy.Proofs.Attempt
import StorePolicy.Proofs.Text.Letters
import StorePolicy.Proofs.Text.Trim
import StorePolicy.Xml.ElementPath

/-!
# How predicates are written

Between its brackets a predicate names an attribute or a child, alone or with a value in quotes,
gives the own text as a value in quotes, counts, or asks for the last. What is taken for a name and
for a value is left open: the forms that are meant and the forms that are read are the same up to
this. A text without blanks at its ends is read exactly as the predicate that it is written for.
-/
namespace StorePolicy.Xml

open Text (Blanks Tight)

section Names

def IsWord (cs : List Char) : Prop := cs ≠ [] ∧ ∀ c ∈ cs, isPathNameChar c = true

def pathMarks : List Char := ['\'', '"', '[', ']', '(', ')', '/', '=', '@', '*']

variable {c : Char} {name : List Char}

theorem isBlank_of_isPathNameChar (h : isPathNameChar c = true) : Text.isBlank c = false := by
  rw [← Bool.not_eq_true]
  intro hblank
  rw [isPathNameChar, Text.isAlphanumeric_of_isBlank hblank, Bool.false_or,
    List.contains_iff_mem] at h
  have hsigns : ['_', '-', '.', ':', '\x7b', '\x7d'].all (fun s => !Text.isBlank s) = true := rfl
  simpa [hblank] using List.all_eq_true.1 hsigns c h

theorem not_mem_pathMarks_of_all {kind : Char → Bool}
    (hmarks : pathMarks.all (fun m => !kind m) = true) (h : kind c = true) : c ∉ pathMarks := by
  intro hmem
  simpa [h] using List.all_eq_true.1 hmarks c hmem

theorem not_mem_pathMarks (h : isPathNameChar c = true) : c ∉ pathMarks :=
  not_mem_pathMarks_of_all (by decide) h

theorem isQuote_iff : isQuote c = true ↔ c = '\'' ∨ c = '"' := by
  simp [isQuote]

theorem isPathName_iff : isPathName name = true ↔ name = ['*'] ∨ name = [] ∨ IsWord name := by
  unfold isPathName IsWord
  by_cases hnil : name = [] <;> simp [hnil]

theorem IsWord.not_mem (h : IsWord name) {m : Char} (hm : m ∈ pathMarks) : m ∉ name :=
  fun hmem => not_mem_pathMarks (h.2 m hmem) hm

theorem IsWord.ne_star (h : IsWord name) : name ≠ ['*'] := by
  rintro rfl
  exact h.not_mem (by decide) (List.mem_singleton_self _)

theorem IsWord.isPathName (h : IsWord name) : isPathName name = true :=
  isPathName_iff.2 (.inr (.inr h))

theorem tight_of_isPathNameChar (h : ∀ c ∈ name, isPathNameChar c = true) : Tight name :=
  Text.tight_of_forall fun c hc => isBlank_of_isPathNameChar (h c hc)
end Names

/-- What may stand for the name of an attribute, for the name of a child before a value, and for
the value between two quotes. -/
structure Spelling where
  attributeName : List Char → Prop
  childName : List Char → Prop
  value : Char → List Char → Prop

/-- The forms that are meant: a name is a word, and a value lacks the quote around it. -/
def Spelling.documented : Spelling := ⟨IsWord, IsWord, fun q v => q ∉ v⟩

/-- The forms that are read: an attribute may have a star for a name, a child before a value may
have no name, and a value is all between the first quote and the last. -/
def Spelling.accepted : Spelling :=
  ⟨fun name => IsWord name ∨ name = ['*'], fun name => IsWord name ∨ name = [], fun _ _ => True⟩

inductive Spelling.Assigns (s : Spelling) : String → List Char → Prop
  | intro {before after v : List Char} {q : Char} (hbefore : Blanks before) (hafter : Blanks after)
      (hq : isQuote q = true) (hv : s.value q v) :
      Assigns s (.ofList v) (before ++ '=' :: (after ++ q :: (v ++ [q])))

inductive Predicate.Written (s : Spelling) : Predicate → List Char → Prop
  | hasAttribute {name : List Char} (hname : s.attributeName name) :
      Written s (.hasAttribute (.ofList name)) ('@' :: name)
  | attributeIs {name right : List Char} {v : String} (hname : s.attributeName name)
      (hv : s.Assigns v right) :
      Written s (.attributeIs (.ofList name) v) ('@' :: name ++ right)
  | hasChild {name : List Char} (hname : IsWord name) (hdigits : name.all Char.isDigit = false)
      (hpoint : name ≠ ['.']) :
      Written s (.hasChild (.ofList name)) name
  | childTextIs {name right : List Char} {v : String} (hname : s.childName name)
      (hpoint : name ≠ ['.']) (hv : s.Assigns v right) :
      Written s (.childTextIs (.ofList name) v) (name ++ right)
  | textIs {right : List Char} {v : String} (hv : s.Assigns v right) :
      Written s (.textIs v) ('.' :: right)
  | position {digits : List Char} {n : Nat} (hne : digits ≠ [])
      (hdigits : digits.all Char.isDigit = true) (hn : Nat.ofDigitChars 10 digits 0 = n)
      (hone : 1 ≤ n) (hmax : n ≤ maxPosition) :
      Written s (.position n) digits
  | last : Written s .last ['l', 'a', 's', 't', '(', ')']

theorem Spelling.Assigns.exists_concat {s : Spelling} {v : String} {right : List Char}
    (h : s.Assigns v right) :
    ∃ begin q, right = begin ++ [q] ∧ isQuote q = true ∧ s.value q v.toList := by
  obtain ⟨hbefore, hafter, hq, hv⟩ := h
  rename_i before after value q
  refine ⟨before ++ '=' :: (after ++ q :: value), q, by simp, hq, ?_⟩
  rwa [String.toList_ofList]

theorem Spelling.Assigns.mono {s t : Spelling} (hvalue : ∀ q v, s.value q v → t.value q v)
    {v : String} {right : List Char} (h : s.Assigns v right) : t.Assigns v right := by
  obtain ⟨hbefore, hafter, hq, hv⟩ := h
  exact .intro hbefore hafter hq (hvalue _ _ hv)

theorem Predicate.Written.mono {s t : Spelling}
    (hattribute : ∀ name, s.attributeName name → t.attributeName name)
    (hchild : ∀ name, s.childName name → t.childName name)
    (hvalue : ∀ q v, s.value q v → t.value q v) {p : Predicate} {body : List Char}
    (h : p.Written s body) : p.Written t body := by
  cases h with
  | hasAttribute hname => exact .hasAttribute (hattribute _ hname)
  | attributeIs hname hv => exact .attributeIs (hattribute _ hname) (hv.mono hvalue)
  | hasChild hname hdigits hpoint => exact .hasChild hname hdigits hpoint
  | childTextIs hname hpoint hv => exact .childTextIs (hchild _ hname) hpoint (hv.mono hvalue)
  | textIs hv => exact .textIs (hv.mono hvalue)
  | position hne hdigits hn hone hmax => exact .position hne hdigits hn hone hmax
  | last => exact .last

theorem Predicate.Written.accepted_of_documented {p : Predicate} {body : List Char}
    (h : p.Written .documented body) : p.Written .accepted body :=
  h.mono (fun _ => Or.inl) (fun _ => Or.inl) (fun _ _ _ => trivial)

theorem unquote_eq_ok_iff {cs : List Char} {s : String} :
    unquote cs = .ok s ↔ ∃ q v, isQuote q = true ∧ cs = q :: (v ++ [q]) ∧ s = String.ofList v := by
  constructor
  · intro h
    cases cs with
    | nil => cases h
    | cons q rest =>
      unfold unquote at h
      simp only [Bool.and_eq_true, decide_eq_true_eq] at h
      split at h
      · next hquotes =>
        cases h
        have hrest : rest = rest.dropLast ++ [q] :=
          (List.dropLast_append_getLast? q hquotes.2).symm
        exact ⟨q, rest.dropLast, hquotes.1, congrArg _ hrest, rfl⟩
      · cases h
  · rintro ⟨q, v, hq, rfl, rfl⟩
    simp [unquote, hq]

section Reading

def readNamed (text : List Char) (value : Option String) : List Char → Except PathFault Predicate
  | '@' :: name =>
    if name.isEmpty || !isPathName name then .error (.invalidAttribute (String.ofList name))
    else match value with
      | some v => .ok (.attributeIs (String.ofList name) v)
      | none => .ok (.hasAttribute (String.ofList name))
  | ['.'] =>
    match value with
    | some v => .ok (.textIs v)
    | none => .error .needsValue
  | name =>
    if !isPathName name || name = ['*'] then .error (.unsupported (String.ofList text))
    else match value with
      | some v => .ok (.childTextIs (String.ofList name) v)
      | none => .ok (.hasChild (String.ofList name))

variable {body left right name : List Char} {p : Predicate} {v : String}

theorem readPredicate_of_digits (hne : body ≠ []) (h : body.all Char.isDigit = true) :
    readPredicate body =
      if maxPosition < Nat.ofDigitChars 10 body 0 then
        .error (.invalidPosition (String.ofList body))
      else if Nat.ofDigitChars 10 body 0 = 0 then .error .positionZero
      else .ok (.position (Nat.ofDigitChars 10 body 0)) := by
  have hempty : body.isEmpty = false := by simpa using hne
  have hlast : body ≠ ['l', 'a', 's', 't', '(', ')'] := by
    rintro rfl
    cases h
  have hvalue : body.foldl (fun n c => n * 10 + (c.toNat - 48)) 0 = Nat.ofDigitChars 10 body 0 := by
    simp only [Nat.ofDigitChars_eq_foldl, Nat.mul_comm 10]
    rfl
  simp only [readPredicate, hempty, hlast, h, hvalue, if_true, if_false, Bool.false_eq_true,
    pure_bind]
  by_cases hmax : maxPosition < Nat.ofDigitChars 10 body 0
  · rw [if_pos hmax, if_pos hmax]
    rfl
  · rw [if_neg hmax, if_neg hmax]
    by_cases hzero : Nat.ofDigitChars 10 body 0 = 0
    · rw [if_pos hzero, if_pos hzero]
      rfl
    · rw [if_neg hzero, if_neg hzero]
      rfl

theorem not_digits_of_mem {m : Char} (hm : m.isDigit = false) (h : m ∈ body) :
    body.all Char.isDigit = false :=
  List.all_eq_false.2 ⟨m, h, by simp [hm]⟩

theorem readPredicate_of_value (hequals : '=' ∉ left) :
    readPredicate (left ++ '=' :: right) =
      unquote (Text.trim right) >>= fun v =>
        readNamed (left ++ '=' :: right) (some v) (Text.trim left) := by
  have hempty : (left ++ '=' :: right).isEmpty = false := by simp
  have hlast : left ++ '=' :: right ≠ ['l', 'a', 's', 't', '(', ')'] := by
    intro h
    have hmem : '=' ∈ ['l', 'a', 's', 't', '(', ')'] :=
      h ▸ List.mem_append_right _ List.mem_cons_self
    exact absurd hmem (by decide)
  have hdigits : (left ++ '=' :: right).all Char.isDigit = false :=
    not_digits_of_mem (m := '=') (by decide) (by simp)
  have hpass : ∀ c ∈ left, decide (c ≠ '=') = true := by
    intro c hc
    have hne : c ≠ '=' := fun h => hequals (h ▸ hc)
    simpa using hne
  have htake : (left ++ '=' :: right).takeWhile (· ≠ '=') = left := by
    rw [List.takeWhile_append_of_pos hpass]
    simp
  have hdrop : (left ++ '=' :: right).dropWhile (· ≠ '=') = '=' :: right := by
    rw [List.dropWhile_append_of_pos hpass]
    simp
  simp only [readPredicate, hempty, hlast, hdigits, htake, hdrop, if_false, Bool.false_eq_true]
  cases unquote (Text.trim right) with
  | error f => rfl
  | ok v => rfl

theorem readPredicate_of_name (hne : body ≠ []) (hlast : body ≠ ['l', 'a', 's', 't', '(', ')'])
    (hdigits : body.all Char.isDigit = false) (hequals : '=' ∉ body) :
    readPredicate body = readNamed body none body := by
  have hempty : body.isEmpty = false := by simpa using hne
  have hpass : ∀ c ∈ body, decide (c ≠ '=') = true := by
    intro c hc
    have hne : c ≠ '=' := fun h => hequals (h ▸ hc)
    simpa using hne
  have htake : body.takeWhile (· ≠ '=') = body := List.takeWhile_eq_self_iff.2 hpass
  have hdrop : body.dropWhile (· ≠ '=') = [] := List.dropWhile_eq_nil_iff.2 hpass
  simp only [readPredicate, hempty, hlast, hdigits, htake, hdrop, if_false, Bool.false_eq_true,
    pure_bind]
  rfl

theorem readNamed_attribute {text : List Char} {value : Option String} :
    readNamed text value ('@' :: name) = .ok p ↔ Spelling.accepted.attributeName name ∧
      p = value.elim (.hasAttribute (String.ofList name)) (.attributeIs (String.ofList name)) := by
  have hname : (name.isEmpty || !isPathName name) = false ↔
      Spelling.accepted.attributeName name := by
    rw [Bool.or_eq_false_iff, Bool.not_eq_false', isPathName_iff, List.isEmpty_eq_false_iff]
    constructor
    · rintro ⟨hne, hstar | hnil | hword⟩
      · exact .inr hstar
      · exact absurd hnil hne
      · exact .inl hword
    · rintro (hword | hstar)
      · exact ⟨hword.1, .inr (.inr hword)⟩
      · exact ⟨by simp [hstar], .inl hstar⟩
  have hread : readNamed text value ('@' :: name) =
      if name.isEmpty || !isPathName name then .error (.invalidAttribute (String.ofList name))
      else match value with
        | some v => .ok (.attributeIs (String.ofList name) v)
        | none => .ok (.hasAttribute (String.ofList name)) := rfl
  rw [hread, ← hname]
  cases name.isEmpty || !isPathName name <;> cases value <;> simp [@eq_comm _ p]

theorem readNamed_point {text : List Char} {value : Option String} :
    readNamed text value ['.'] = .ok p ↔ ∃ v, value = some v ∧ p = .textIs v := by
  cases value <;> simp [readNamed, @eq_comm _ p]

theorem readNamed_child {text : List Char} {value : Option String}
    (hattribute : ∀ rest, name ≠ '@' :: rest) (hpoint : name ≠ ['.']) :
    readNamed text value name = .ok p ↔ Spelling.accepted.childName name ∧
      p = value.elim (.hasChild (String.ofList name)) (.childTextIs (String.ofList name)) := by
  have hname : (!isPathName name || name = ['*']) = false ↔ Spelling.accepted.childName name := by
    rw [Bool.or_eq_false_iff, Bool.not_eq_false', isPathName_iff, decide_eq_false_iff_not]
    constructor
    · rintro ⟨hstar | hnil | hword, hne⟩
      · exact absurd hstar hne
      · exact .inr hnil
      · exact .inl hword
    · rintro (hword | hnil)
      · exact ⟨.inr (.inr hword), hword.ne_star⟩
      · exact ⟨.inr (.inl hnil), by simp [hnil]⟩
  unfold readNamed
  split
  · exact absurd rfl (hattribute _)
  · exact absurd rfl hpoint
  · rw [← hname]
    cases !isPathName name || name = ['*'] <;> cases value <;> simp [@eq_comm _ p]

theorem isBlank_of_isQuote {q : Char} (hq : isQuote q = true) : Text.isBlank q = false := by
  rcases isQuote_iff.1 hq with rfl | rfl <;> decide

theorem tight_quoted {q : Char} (hq : isQuote q = true) (v : List Char) :
    Tight (q :: (v ++ [q])) := by
  have hblank := isBlank_of_isQuote hq
  refine ⟨fun c hc => ?_, fun c hc => ?_⟩
  · obtain rfl : q = c := by simpa using hc
    exact hblank
  · rw [← List.cons_append, List.getLast?_concat] at hc
    exact Option.some_inj.1 hc ▸ hblank

theorem not_mem_of_blanks {cs : List Char} (h : Blanks cs) : '=' ∉ cs :=
  fun hmem => absurd (h '=' hmem) (by decide)

theorem readPredicate_of_assigns {tail : List Char} (hname : Tight name) (hequals : '=' ∉ name)
    (hv : Spelling.accepted.Assigns v tail) :
    readPredicate (name ++ tail) = readNamed (name ++ tail) (some v) name := by
  obtain ⟨hbefore, hafter, hq, -⟩ := hv
  rename_i before after value q
  have hleft : '=' ∉ name ++ before := by
    rw [List.mem_append]
    exact fun h => h.elim hequals (not_mem_of_blanks hbefore)
  have hnil : Blanks [] := by simp [Blanks]
  have htrimLeft : Text.trim (name ++ before) = name := by
    simpa using Text.trim_between hnil hbefore hname
  have htrimRight : Text.trim (after ++ q :: (value ++ [q])) = q :: (value ++ [q]) := by
    simpa using Text.trim_between hafter hnil (tight_quoted hq value)
  rw [← List.append_assoc, readPredicate_of_value hleft, htrimLeft, htrimRight,
    unquote_eq_ok_iff.2 ⟨q, value, hq, rfl, rfl⟩]
  rfl

theorem exists_assigns (htight : Tight (left ++ '=' :: right))
    (hv : unquote (Text.trim right) = .ok v) :
    ∃ tail, Spelling.accepted.Assigns v tail ∧ left ++ '=' :: right = Text.trim left ++ tail := by
  obtain ⟨q, value, hq, hquoted, rfl⟩ := unquote_eq_ok_iff.1 hv
  obtain ⟨first, before, hfirst, hbefore, hleft⟩ := Text.exists_trim left
  obtain ⟨after, last, hafter, hlast, hright⟩ := Text.exists_trim right
  rw [hquoted] at hright
  obtain rfl : first = [] := by
    rw [hleft, List.append_assoc, List.append_assoc] at htight
    exact htight.eq_nil_of_before hfirst
  obtain rfl : last = [] := by
    rw [hright, ← List.cons_append, ← List.append_assoc] at htight
    exact htight.eq_nil_of_after hlast
  refine ⟨_, .intro hbefore hafter hq trivial, ?_⟩
  nth_rewrite 1 [hleft]
  rw [hright]
  simp

theorem tight_of_accepted_child (h : Spelling.accepted.childName name) :
    Tight name ∧ '=' ∉ name := by
  rcases h with hword | rfl
  · exact ⟨tight_of_isPathNameChar hword.2, hword.not_mem (by decide)⟩
  · exact ⟨⟨by simp, by simp⟩, by simp⟩

theorem tight_of_accepted_attribute (h : Spelling.accepted.attributeName name) :
    Tight ('@' :: name) ∧ '=' ∉ '@' :: name := by
  rcases h with hword | rfl
  · have hlast : ∀ c ∈ ('@' :: name).getLast?, Text.isBlank c = false := by
      rw [← List.singleton_append, List.getLast?_append, List.getLast?_eq_some_getLast hword.1]
      exact fun c hc => isBlank_of_isPathNameChar (hword.2 c (by
        rw [Option.mem_def, Option.some_or, Option.some_inj] at hc
        exact hc ▸ List.getLast_mem hword.1))
    refine ⟨⟨by simpa using by decide, hlast⟩, ?_⟩
    simpa using hword.not_mem (m := '=') (by decide)
  · exact ⟨Text.tight_of_all rfl, by decide⟩

theorem ne_attribute_of_accepted_child (h : Spelling.accepted.childName name) (rest : List Char) :
    name ≠ '@' :: rest := by
  rintro rfl
  rcases h with hword | hnil
  · exact hword.not_mem (m := '@') (by decide) List.mem_cons_self
  · cases hnil

theorem readPredicate_of_written (h : p.Written .accepted body) : readPredicate body = .ok p := by
  cases h with
  | hasAttribute hname =>
    have hequals := (tight_of_accepted_attribute hname).2
    rw [readPredicate_of_name (by simp) (by simp) rfl hequals]
    exact readNamed_attribute.2 ⟨hname, rfl⟩
  | attributeIs hname hv =>
    obtain ⟨htight, hequals⟩ := tight_of_accepted_attribute hname
    rw [readPredicate_of_assigns htight hequals hv]
    exact readNamed_attribute.2 ⟨hname, rfl⟩
  | hasChild hname hdigits hpoint =>
    have hlast : body ≠ ['l', 'a', 's', 't', '(', ')'] := by
      rintro rfl
      exact hname.not_mem (m := '(') (by decide) (by decide)
    rw [readPredicate_of_name hname.1 hlast hdigits (hname.not_mem (by decide))]
    exact (readNamed_child (ne_attribute_of_accepted_child (.inl hname)) hpoint).2
      ⟨.inl hname, rfl⟩
  | childTextIs hname hpoint hv =>
    obtain ⟨htight, hequals⟩ := tight_of_accepted_child hname
    rw [readPredicate_of_assigns htight hequals hv]
    exact (readNamed_child (ne_attribute_of_accepted_child hname) hpoint).2 ⟨hname, rfl⟩
  | textIs hv =>
    rw [← List.singleton_append, readPredicate_of_assigns (Text.tight_of_all rfl) (by decide) hv]
    exact readNamed_point.2 ⟨_, rfl, rfl⟩
  | position hne hdigits hn hone hmax =>
    rw [readPredicate_of_digits hne hdigits, hn, if_neg (Nat.not_lt.2 hmax),
      if_neg (Nat.one_le_iff_ne_zero.1 hone)]
  | last => rfl

theorem written_of_readNamed_value {text tail : List Char} (hv : Spelling.accepted.Assigns v tail)
    (h : readNamed text (some v) name = .ok p) : p.Written .accepted (name ++ tail) := by
  by_cases hattribute : ∃ rest, name = '@' :: rest
  · obtain ⟨rest, rfl⟩ := hattribute
    obtain ⟨hname, rfl⟩ := readNamed_attribute.1 h
    exact .attributeIs hname hv
  · by_cases hpoint : name = ['.']
    · subst hpoint
      obtain ⟨w, hw, rfl⟩ := readNamed_point.1 h
      obtain rfl := Option.some_inj.1 hw
      exact .textIs hv
    · obtain ⟨hname, rfl⟩ := (readNamed_child (not_exists.1 hattribute) hpoint).1 h
      exact .childTextIs hname hpoint hv

theorem written_of_readNamed (hne : body ≠ []) (hdigits : body.all Char.isDigit = false)
    (h : readNamed body none body = .ok p) : p.Written .accepted body := by
  by_cases hattribute : ∃ rest, body = '@' :: rest
  · obtain ⟨rest, rfl⟩ := hattribute
    obtain ⟨hname, rfl⟩ := readNamed_attribute.1 h
    exact .hasAttribute hname
  · have hpoint : body ≠ ['.'] := by
      rintro rfl
      obtain ⟨w, hw, -⟩ := readNamed_point.1 h
      cases hw
    obtain ⟨hname, rfl⟩ := (readNamed_child (not_exists.1 hattribute) hpoint).1 h
    exact .hasChild (hname.resolve_right hne) hdigits hpoint

/-- A text without blanks at its ends is read exactly as what it is written for. -/
theorem readPredicate_eq_ok_iff (htight : Tight body) :
    readPredicate body = .ok p ↔ p.Written .accepted body := by
  refine ⟨fun h => ?_, readPredicate_of_written⟩
  by_cases hne : body = []
  · subst hne
    cases h
  by_cases hlast : body = ['l', 'a', 's', 't', '(', ')']
  · subst hlast
    cases h
    exact .last
  cases hdigits : body.all Char.isDigit with
  | true =>
    rw [readPredicate_of_digits hne hdigits] at h
    split at h
    · cases h
    · next hmax =>
      split at h
      · cases h
      · next hzero =>
        cases h
        exact .position hne hdigits rfl (Nat.one_le_iff_ne_zero.2 hzero) (Nat.not_lt.1 hmax)
  | false =>
    by_cases hequals : '=' ∈ body
    · obtain ⟨left, right, rfl, hleft⟩ := List.eq_append_cons_of_mem hequals
      rw [readPredicate_of_value hleft] at h
      obtain ⟨v, hv, h⟩ := bind_eq_ok_iff.1 h
      obtain ⟨tail, htail, hbody⟩ := exists_assigns htight hv
      exact hbody ▸ written_of_readNamed_value htail h
    · rw [readPredicate_of_name hne hlast hdigits hequals] at h
      exact written_of_readNamed hne hdigits h

end Reading
end StorePolicy.Xml

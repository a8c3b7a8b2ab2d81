import StorePolicy.Proofs.Xml.Sealed

/-!
# Written paths

A path is written as its steps with one slash before a child and two before all that is below, and
with every value between quotes that it lacks. A written path is compiled to its own steps.
-/
namespace StorePolicy.Xml

open Text (Blanks Tight)

def Delimits (q : Char) (v : String) : Prop := isQuote q = true ∧ q ∉ v.toList

def Quoting (quote : String → Char) : Prop := ∀ q v, Delimits q v → Delimits (quote v) v

def quoted (quote : String → Char) (v : String) : List Char := quote v :: (v.toList ++ [quote v])

def Predicate.render (quote : String → Char) : Predicate → List Char
  | .hasAttribute name => '@' :: name.toList
  | .attributeIs name v => '@' :: name.toList ++ '=' :: quoted quote v
  | .hasChild name => name.toList
  | .childTextIs name v => name.toList ++ '=' :: quoted quote v
  | .textIs v => '.' :: '=' :: quoted quote v
  | .position n => Nat.toDigits 10 n
  | .last => ['l', 'a', 's', 't', '(', ')']

def NameTest.render : NameTest → List Char
  | .any => ['*']
  | .name s => s.toList

def renderPredicates (quote : String → Char) (ps : List Predicate) : List Char :=
  ps.flatMap fun p => '[' :: (p.render quote ++ [']'])

def PathStep.render (quote : String → Char) : PathStep → List Char
  | .self => ['.']
  | .parent => ['.', '.']
  | .child test ps => test.render ++ renderPredicates quote ps
  | .descendant test ps => test.render ++ renderPredicates quote ps

def PathStep.isBelow : PathStep → Bool
  | .descendant _ _ => true
  | _ => false

def PathStep.renderAfterSlash (quote : String → Char) (s : PathStep) : List Char :=
  (if s.isBelow then ['/', '/'] else ['/']) ++ s.render quote

def renderPath (quote : String → Char) (absolute : Bool) (steps : List PathStep) : String :=
  String.ofList (match absolute, steps with
    | false, first :: rest => first.render quote ++ rest.flatMap (PathStep.renderAfterSlash quote)
    | _, steps => steps.flatMap (PathStep.renderAfterSlash quote))

def IsName (s : String) : Prop := IsWord s.toList ∧ s ≠ "." ∧ s ≠ ".."

def Predicate.WellFormed : Predicate → Prop
  | .hasAttribute name => IsName name
  | .attributeIs name v => IsName name ∧ ∃ q, Delimits q v
  | .hasChild name => IsName name ∧ name.toList.all Char.isDigit = false
  | .childTextIs name v => IsName name ∧ ∃ q, Delimits q v
  | .textIs v => ∃ q, Delimits q v
  | .position n => 1 ≤ n ∧ n ≤ maxPosition
  | .last => True

def NameTest.WellFormed : NameTest → Prop
  | .any => True
  | .name s => IsName s

def PathStep.WellFormed : PathStep → Prop
  | .self => True
  | .parent => True
  | .child test ps => test.WellFormed ∧ ∀ p ∈ ps, p.WellFormed
  | .descendant test ps => test.WellFormed ∧ ∀ p ∈ ps, p.WellFormed

/-- A path has steps, and a relative path does not begin with all that is below. -/
structure WellFormedPath (absolute : Bool) (steps : List PathStep) : Prop where
  steps_ne_nil : steps ≠ []
  first : absolute = false → ∀ s ∈ steps.head?, s.isBelow = false
  wellFormed : ∀ s ∈ steps, s.WellFormed

variable {quote : String → Char} {p : Predicate} {v : String}

theorem assigns_quoted (hv : Delimits (quote v) v) :
    Spelling.documented.Assigns v ('=' :: quoted quote v) := by
  have hnil : Blanks [] := by simp [Blanks]
  have hassigns := Spelling.Assigns.intro (s := .documented) hnil hnil hv.1 hv.2
  rwa [String.ofList_toList] at hassigns

theorem toList_ne_point {name : String} (h : IsName name) : name.toList ≠ ['.'] :=
  fun hpoint => h.2.1 (String.toList_inj.1 hpoint)

theorem written_render (hquote : Quoting quote) (h : p.WellFormed) :
    p.Written .documented (p.render quote) := by
  have hvalue : ∀ {v}, (∃ q, Delimits q v) →
      Spelling.documented.Assigns v ('=' :: quoted quote v) :=
    fun ⟨q, hq⟩ => assigns_quoted (hquote q _ hq)
  cases p with
  | hasAttribute name =>
    have hword : Spelling.documented.attributeName name.toList := h.1
    simpa [Predicate.render] using Predicate.Written.hasAttribute hword
  | attributeIs name v =>
    have hword : Spelling.documented.attributeName name.toList := h.1.1
    simpa [Predicate.render] using Predicate.Written.attributeIs hword (hvalue h.2)
  | hasChild name =>
    simpa [Predicate.render] using
      Predicate.Written.hasChild (s := .documented) h.1.1 h.2 (toList_ne_point h.1)
  | childTextIs name v =>
    have hword : Spelling.documented.childName name.toList := h.1.1
    simpa [Predicate.render] using
      Predicate.Written.childTextIs hword (toList_ne_point h.1) (hvalue h.2)
  | textIs v => exact .textIs (hvalue h)
  | position n =>
    have hdigits : (Nat.toDigits 10 n).all Char.isDigit = true :=
      List.all_eq_true.2 fun c hc => Nat.isDigit_of_mem_toDigits (by decide) (by decide) hc
    exact .position Nat.toDigits_ne_nil hdigits Nat.ofDigitChars_ten_toDigits h.1 h.2
  | last => exact .last

theorem readPredicates_render (hquote : Quoting quote) {ps : List Predicate}
    (h : ∀ p ∈ ps, p.WellFormed) {fuel : Nat} (hfuel : (renderPredicates quote ps).length ≤ fuel) :
    readPredicates fuel (renderPredicates quote ps) = .ok ps := by
  induction ps generalizing fuel with
  | nil => cases fuel <;> rfl
  | cons p rest ih =>
    obtain ⟨hp, hrest⟩ := List.forall_mem_cons.1 h
    have hwritten := written_render hquote hp
    have htext : renderPredicates quote (p :: rest) =
        '[' :: (p.render quote ++ ']' :: renderPredicates quote rest) := by
      simp [renderPredicates]
    have hnext : Text.trimLeft (renderPredicates quote rest) = renderPredicates quote rest :=
      Text.trimLeft_eq_self fun c hc => by
        cases rest with
        | nil => cases hc
        | cons p rest =>
          obtain rfl : '[' = c := by simpa [renderPredicates] using hc
          rfl
    rw [htext] at hfuel ⊢
    cases fuel with
    | zero => cases hfuel
    | succ fuel =>
      have hlength : (renderPredicates quote rest).length ≤ fuel := by
        simp only [List.length_cons, List.length_append] at hfuel
        omega
      simp only [readPredicates, hwritten.sealed.takeBracket, List.reverse_nil, List.nil_append,
        hwritten.tight.trim_eq, readPredicate_of_written hwritten.accepted_of_documented, hnext,
        ih hrest hlength]
      rfl

theorem renderPredicates_eq_nil_or (quote : String → Char) (ps : List Predicate) :
    renderPredicates quote ps = [] ∨ ∃ rest, renderPredicates quote ps = '[' :: rest := by
  cases ps with
  | nil => exact .inl rfl
  | cons p rest => exact .inr ⟨_, by simp [renderPredicates]; rfl⟩

theorem readPathStep_named {name text : List Char} {ps : List Predicate} (below : Bool)
    (htight : Tight name) (hne : name ≠ []) (hpoint : name ≠ ['.']) (hpoints : name ≠ ['.', '.'])
    (hname : isPathName name = true) (hopen : '[' ∉ name)
    (htext : text = [] ∨ ∃ rest, text = '[' :: rest)
    (hps : readPredicates text.length text = .ok ps) :
    readPathStep (name ++ text) below =
      let test : NameTest := if name = ['*'] then .any else .name (String.ofList name)
      .ok (if below then .descendant test ps else .child test ps) := by
  have hpass : ∀ c ∈ name, decide (c ≠ '[') = true := by
    intro c hc
    have hne : c ≠ '[' := fun h => hopen (h ▸ hc)
    simpa using hne
  have hdrop : (name ++ text).dropWhile (· ≠ '[') = text := by
    rw [List.dropWhile_append_of_pos hpass]
    rcases htext with rfl | ⟨rest, rfl⟩ <;> simp
  have htake : Text.trim ((name ++ text).takeWhile (· ≠ '[')) = name := by
    rw [List.takeWhile_append_of_pos hpass]
    rcases htext with rfl | ⟨rest, rfl⟩ <;> simpa using htight.trim_eq
  have hleft : (if text.isEmpty then name ++ text else name) = name := by
    cases text <;> simp
  have hempty : name.isEmpty = false := by simpa using hne
  simp only [readPathStep, hdrop, htake, hleft, hps, hpoint, hpoints, hempty, hname]
  cases below <;> simp [bind, Except.bind, pure, Except.pure]

theorem readPathStep_test {test : NameTest} (htest : test.WellFormed) (hquote : Quoting quote)
    {ps : List Predicate} (hps : ∀ p ∈ ps, p.WellFormed) (below : Bool) :
    readPathStep (test.render ++ renderPredicates quote ps) below =
      .ok (if below then .descendant test ps else .child test ps) := by
  have htext := renderPredicates_eq_nil_or quote ps
  have hread := readPredicates_render hquote hps (Nat.le_refl _)
  cases test with
  | any =>
    exact readPathStep_named below (Text.tight_of_all rfl) (by decide) (by decide) (by decide) rfl
      (by decide) htext hread
  | name s =>
    have hword : IsWord s.toList := htest.1
    have hpoints : s.toList ≠ ['.', '.'] := fun h => htest.2.2 (String.toList_inj.1 h)
    have hstep := readPathStep_named below (tight_of_isPathNameChar hword.2) hword.1
      (toList_ne_point htest) hpoints hword.isPathName (hword.not_mem (by decide)) htext hread
    simpa [NameTest.render, hword.ne_star] using hstep

theorem readPathStep_render (hquote : Quoting quote) {s : PathStep} (h : s.WellFormed) :
    readPathStep (s.render quote) s.isBelow = .ok s := by
  cases s with
  | self => rfl
  | parent => rfl
  | child test ps => exact readPathStep_test h.1 hquote h.2 false
  | descendant test ps => exact readPathStep_test h.1 hquote h.2 true

theorem unsplit_render (hquote : Quoting quote) {s : PathStep} (h : s.WellFormed) :
    Unsplit (s.render quote) := by
  have hpredicates : ∀ {ps : List Predicate}, (∀ p ∈ ps, p.WellFormed) →
      Unsplit (renderPredicates quote ps) := by
    intro ps hps
    induction ps with
    | nil => exact unsplit_nil
    | cons p rest ih =>
      obtain ⟨hp, hrest⟩ := List.forall_mem_cons.1 hps
      exact (written_render hquote hp).sealed.unsplit_bracket.append (ih hrest)
  have htest : ∀ {test : NameTest}, test.WellFormed → Unsplit test.render := by
    intro test htest
    cases test with
    | any => exact unsplit_of_plain (by simp [NameTest.render, isQuote])
    | name s =>
      exact unsplit_of_plain fun c hc => plain_of_not_mem (not_mem_pathMarks (htest.1.2 c hc))
  cases s with
  | self => exact unsplit_of_plain (w := ['.']) (by simp [isQuote])
  | parent => exact unsplit_of_plain (w := ['.', '.']) (by simp [isQuote])
  | child test ps => exact (htest h.1).append (hpredicates h.2)
  | descendant test ps => exact (htest h.1).append (hpredicates h.2)

theorem isBlank_getLast_predicates (quote : String → Char) (ps : List Predicate) :
    ∀ c ∈ (renderPredicates quote ps).getLast?, Text.isBlank c = false := by
  intro c hc
  rcases List.eq_nil_or_concat ps with rfl | ⟨rest, p, rfl⟩
  · cases hc
  · rw [renderPredicates, List.concat_eq_append, List.flatMap_append, List.flatMap_singleton,
      ← List.cons_append, ← List.append_assoc, List.getLast?_concat] at hc
    exact Option.some_inj.1 hc ▸ rfl

theorem tight_render (quote : String → Char) {s : PathStep} (h : s.WellFormed) :
    Tight (s.render quote) ∧ s.render quote ≠ [] := by
  have htest : ∀ {test : NameTest}, test.WellFormed → Tight test.render ∧ test.render ≠ [] := by
    intro test htest
    cases test with
    | any => exact ⟨Text.tight_of_all rfl, by decide⟩
    | name s => exact ⟨tight_of_isPathNameChar htest.1.2, htest.1.1⟩
  have hnamed : ∀ {test : NameTest} {ps : List Predicate}, test.WellFormed →
      Tight (test.render ++ renderPredicates quote ps) ∧
        test.render ++ renderPredicates quote ps ≠ [] := by
    intro test ps h
    obtain ⟨htight, hne⟩ := htest h
    exact ⟨htight.append hne (isBlank_getLast_predicates quote ps), by simp [hne]⟩
  cases s with
  | self => exact ⟨Text.tight_of_all rfl, by simp [PathStep.render]⟩
  | parent => exact ⟨Text.tight_of_all rfl, by simp [PathStep.render]⟩
  | child test ps => exact hnamed h.1
  | descendant test ps => exact hnamed h.1

def PathStep.parts (quote : String → Char) (s : PathStep) : List (List Char) :=
  if s.isBelow then [[], s.render quote] else [s.render quote]

theorem splitSteps_renderAfterSlash (hquote : Quoting quote) {steps : List PathStep}
    (h : ∀ s ∈ steps, s.WellFormed) (cur : List Char) :
    splitSteps 0 none cur (steps.flatMap (PathStep.renderAfterSlash quote)) =
      .ok (cur.reverse :: steps.flatMap (PathStep.parts quote)) := by
  induction steps generalizing cur with
  | nil => rfl
  | cons s rest ih =>
    obtain ⟨hs, hrest⟩ := List.forall_mem_cons.1 h
    have hnext := unsplit_render hquote hs [] (rest.flatMap (PathStep.renderAfterSlash quote))
    rw [List.append_nil, ih hrest, List.reverse_reverse] at hnext
    have hslash : ∀ cur cs, splitSteps 0 none cur ('/' :: cs) =
        (splitSteps 0 none [] cs).map (cur.reverse :: ·) := fun _ _ => rfl
    rw [List.flatMap_cons, List.flatMap_cons, PathStep.renderAfterSlash, PathStep.parts,
      List.append_assoc]
    cases s.isBelow with
    | false => simp [hslash, hnext, Except.map]
    | true => simp [hslash, hnext, Except.map]

theorem readSteps_parts (hquote : Quoting quote) {steps : List PathStep}
    (h : ∀ s ∈ steps, s.WellFormed) :
    readSteps false (steps.flatMap (PathStep.parts quote)) = .ok steps := by
  induction steps with
  | nil => rfl
  | cons s rest ih =>
    obtain ⟨hs, hrest⟩ := List.forall_mem_cons.1 h
    obtain ⟨htight, hne⟩ := tight_render quote hs
    have hread := readPathStep_render hquote hs
    have hempty : (s.render quote).isEmpty = false := by simpa using hne
    have hnil : Text.trim [] = [] := rfl
    rw [List.flatMap_cons, PathStep.parts]
    cases hbelow : s.isBelow with
    | false =>
      rw [hbelow] at hread
      simp [readSteps, htight.trim_eq, hne, hread, ih hrest, bind, Except.bind, pure, Except.pure]
    | true =>
      rw [hbelow] at hread
      simp [readSteps, hnil, htight.trim_eq, hne, hread, ih hrest, bind, Except.bind, pure,
        Except.pure]

theorem isBlank_getLast_steps {steps : List PathStep} (h : ∀ s ∈ steps, s.WellFormed) :
    ∀ c ∈ (steps.flatMap (PathStep.renderAfterSlash quote)).getLast?, Text.isBlank c = false := by
  intro c hc
  rcases List.eq_nil_or_concat steps with rfl | ⟨rest, s, rfl⟩
  · cases hc
  · obtain ⟨htight, hne⟩ := tight_render quote (h s (by simp))
    refine htight.last c ?_
    rw [List.concat_eq_append, List.flatMap_append, List.flatMap_singleton,
      PathStep.renderAfterSlash, ← List.append_assoc, List.getLast?_append] at hc
    rwa [List.getLast?_eq_some_getLast hne, Option.some_or,
      ← List.getLast?_eq_some_getLast hne] at hc

theorem head_render_ne_slash {s : PathStep} (h : s.WellFormed) :
    (s.render quote).head? ≠ some '/' := by
  have htest : ∀ {test : NameTest} {ps : List Predicate}, test.WellFormed →
      (test.render ++ renderPredicates quote ps).head? ≠ some '/' := by
    intro test ps htest hhead
    cases test with
    | any => cases hhead
    | name s =>
      rw [NameTest.render, List.head?_append_of_ne_nil _ htest.1.1] at hhead
      exact htest.1.not_mem (m := '/') (by decide) (List.mem_of_mem_head? hhead)
  cases s with
  | self => simp [PathStep.render]
  | parent => simp [PathStep.render]
  | child test ps => exact htest h.1
  | descendant test ps => exact htest h.1

theorem compile_of_text {cs : List Char} {parts : List (List Char)} {steps : List PathStep}
    (htight : Tight cs) (hne : cs ≠ []) (hparts : splitSteps 0 none [] cs = .ok parts)
    (hsteps : readSteps false (if cs.head? = some '/' then parts.drop 1 else parts) = .ok steps)
    (hsome : steps ≠ []) :
    ElementPath.compile (String.ofList cs) =
      .ok ⟨String.ofList cs, cs.head? = some '/', steps⟩ := by
  have hempty : cs.isEmpty = false := by simpa using hne
  have hnone : steps.isEmpty = false := by simpa using hsome
  simp only [ElementPath.compile, String.toList_ofList, htight.trim_eq, hempty, hparts,
    Bool.false_eq_true, if_false]
  by_cases hslash : cs.head? = some '/'
  · simp only [hslash, if_true, decide_true] at hsteps ⊢
    simp only [bind, Except.bind, hsteps, hnone]
    rfl
  · simp only [hslash, if_false, decide_false] at hsteps ⊢
    simp only [bind, Except.bind, hsteps, hnone]
    rfl

/-- A written path is compiled to its own steps. -/
theorem compile_render (hquote : Quoting quote) {absolute : Bool} {steps : List PathStep}
    (h : WellFormedPath absolute steps) :
    ElementPath.compile (renderPath quote absolute steps) =
      .ok ⟨renderPath quote absolute steps, absolute, steps⟩ := by
  obtain ⟨first, rest, rfl⟩ := List.exists_cons_of_ne_nil h.steps_ne_nil
  obtain ⟨hfirst, hrest⟩ := List.forall_mem_cons.1 h.wellFormed
  have hread := readSteps_parts hquote h.wellFormed
  cases absolute with
  | true =>
    have hhead : ((first :: rest).flatMap (PathStep.renderAfterSlash quote)).head? = some '/' := by
      rw [List.flatMap_cons, PathStep.renderAfterSlash]
      cases first.isBelow <;> rfl
    have hne : (first :: rest).flatMap (PathStep.renderAfterSlash quote) ≠ [] := by
      intro hnil
      rw [hnil] at hhead
      cases hhead
    have htight : Tight ((first :: rest).flatMap (PathStep.renderAfterSlash quote)) := by
      refine ⟨fun c hc => ?_, isBlank_getLast_steps h.wellFormed⟩
      rw [hhead] at hc
      exact Option.some_inj.1 hc ▸ rfl
    have hcompile := compile_of_text htight hne
      (splitSteps_renderAfterSlash hquote h.wellFormed []) (by rw [if_pos hhead]; exact hread)
      h.steps_ne_nil
    rwa [decide_eq_true hhead] at hcompile
  | false =>
    have hbelow : first.isBelow = false := h.first rfl first rfl
    obtain ⟨htight, hne⟩ := tight_render quote hfirst
    have hhead : (first.render quote ++
        rest.flatMap (PathStep.renderAfterSlash quote)).head? ≠ some '/' := by
      rw [List.head?_append_of_ne_nil _ hne]
      exact head_render_ne_slash hfirst
    have hparts : (first :: rest).flatMap (PathStep.parts quote) =
        first.render quote :: rest.flatMap (PathStep.parts quote) := by
      simp [PathStep.parts, hbelow]
    have hsplit := unsplit_render hquote hfirst [] (rest.flatMap (PathStep.renderAfterSlash quote))
    rw [List.append_nil, splitSteps_renderAfterSlash hquote hrest, List.reverse_reverse,
      ← hparts] at hsplit
    have hcompile := compile_of_text (htight.append hne (isBlank_getLast_steps hrest))
      (by simp [hne]) hsplit (by rw [if_neg hhead]; exact hread) h.steps_ne_nil
    rwa [decide_eq_false hhead] at hcompile

theorem compile_render_of_marks_in_value :
    let quote : String → Char := fun v => if '\'' ∈ v.toList then '"' else '\''
    let steps : List PathStep :=
      [.child (.name "a") [.attributeIs "b" "x]/='y"], .descendant .any [.position 2, .last],
        .parent]
    Quoting quote ∧ WellFormedPath true steps ∧
    renderPath quote true steps = "/a[@b=\"x]/='y\"]//*[2][last()]/.." ∧
    ElementPath.compile (renderPath quote true steps) =
      .ok ⟨renderPath quote true steps, true, steps⟩ := by
  intro quote steps
  have hquote : Quoting quote := by
    intro q v hq
    by_cases hmem : '\'' ∈ v.toList
    · rcases isQuote_iff.1 hq.1 with rfl | rfl
      · exact absurd hmem hq.2
      · simpa [quote, hmem] using hq
    · exact ⟨by simp [quote, hmem, isQuote], by simp [quote, hmem]⟩
  have hname : ∀ s ∈ ["a", "b"], IsName s := by
    intro s hs
    simp only [List.mem_cons, List.not_mem_nil, or_false] at hs
    rcases hs with rfl | rfl
    · exact ⟨⟨by decide, List.all_eq_true.1 (by decide)⟩, by decide, by decide⟩
    · exact ⟨⟨by decide, List.all_eq_true.1 (by decide)⟩, by decide, by decide⟩
  have hdelimits : Delimits '"' "x]/='y" := ⟨rfl, by decide⟩
  have hsteps : WellFormedPath true steps := by
    refine ⟨by simp [steps], by simp, ?_⟩
    simp only [steps, List.forall_mem_cons, PathStep.WellFormed, NameTest.WellFormed,
      Predicate.WellFormed]
    exact ⟨⟨hname "a" (by simp), ⟨hname "b" (by simp), '"', hdelimits⟩, by simp⟩,
      ⟨trivial, ⟨by decide, by decide⟩, trivial, by simp⟩, trivial, by simp⟩
  exact ⟨hquote, hsteps, by decide, compile_render hquote hsteps⟩

end StorePolicy.Xml

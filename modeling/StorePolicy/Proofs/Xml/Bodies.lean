import Mathlib.Data.List.Forall2
import StorePolicy.Proofs.Check.Faults
import StorePolicy.Proofs.Xml.Compile
import StorePolicy.Proofs.Xml.Sealed

/-!
# Predicates in a path

The texts between the brackets of a path that compiles are, in order, what its predicates are read
from. Every one of them is written in a form that is read; what keeps it from a form that is meant
is a name that is empty or a star, or a quote within its value.
-/
namespace StorePolicy.Xml

open Text (Blanks)

/-- The texts from every bracket outside of quotes to the next that closes one. -/
def bodiesFrom (quote : Option Char) (body? : Option (List Char)) : List Char → List (List Char)
  | [] => []
  | c :: rest =>
    if quote.isSome || isQuote c then bodiesFrom (quoteAfter quote c) (body?.map (c :: ·)) rest
    else
      match body? with
      | none => bodiesFrom none (if c = '[' then some [] else none) rest
      | some body =>
        if c = ']' then body.reverse :: bodiesFrom none none rest
        else bodiesFrom none (some (c :: body)) rest

def bodies (s : String) : List (List Char) := (bodiesFrom none none s.toList).map Text.trim

def Reads (part : List Char) (ps : List Predicate) : Prop :=
  ∃ bs, (∀ rest, bodiesFrom none none (part ++ rest) = bs ++ bodiesFrom none none rest) ∧
    List.Forall₂ (fun body p => readPredicate (Text.trim body) = .ok p) bs ps

section Reading

variable {part part' cs acc : List Char} {ps ps' : List Predicate} {quote : Option Char}

theorem reads_nil : Reads [] [] := ⟨[], fun _ => rfl, .nil⟩

theorem Reads.append (h : Reads part ps) (h' : Reads part' ps') :
    Reads (part ++ part') (ps ++ ps') := by
  obtain ⟨bs, hscan, hread⟩ := h
  obtain ⟨bs', hscan', hread'⟩ := h'
  refine ⟨bs ++ bs', fun rest => ?_, List.rel_append hread hread'⟩
  rw [List.append_assoc, hscan, hscan', List.append_assoc]

theorem reads_of_plain (h : ∀ c ∈ cs, isQuote c = false ∧ c ≠ '[') : Reads cs [] := by
  refine ⟨[], fun rest => ?_, .nil⟩
  induction cs with
  | nil => rfl
  | cons c cs ih =>
    obtain ⟨⟨hquote, hopen⟩, hcs⟩ := List.forall_mem_cons.1 h
    simpa [bodiesFrom, hquote, hopen] using ih hcs

theorem reads_of_not_mem (h : ∀ c ∈ cs, c ∉ pathMarks) : Reads cs [] :=
  reads_of_plain fun c hc =>
    let ⟨hquote, hopen, _⟩ := plain_of_not_mem (h c hc)
    ⟨hquote, hopen⟩

theorem reads_of_blanks (h : Blanks cs) : Reads cs [] :=
  reads_of_not_mem fun c hc => not_mem_pathMarks_of_isBlank (h c hc)

theorem reads_slash_iff : Reads ('/' :: cs) ps ↔ Reads cs ps := Iff.rfl

theorem reads_of_trimLeft (h : Reads (Text.trimLeft cs) ps) : Reads cs ps := by
  have hblanks : Blanks (cs.takeWhile Text.isBlank) := fun c hc => List.mem_takeWhile_imp hc
  have hcs : cs.takeWhile Text.isBlank ++ Text.trimLeft cs = cs := List.takeWhile_append_dropWhile
  rw [← hcs]
  exact (reads_of_blanks hblanks).append h

theorem reads_of_trim (h : Reads (Text.trim cs) ps) : Reads cs ps := by
  obtain ⟨before, after, hbefore, hafter, hcs⟩ := Text.exists_trim cs
  rw [hcs]
  simpa using ((reads_of_blanks hbefore).append h).append (reads_of_blanks hafter)

theorem exists_takeBracket {body rest : List Char}
    (h : takeBracket quote acc cs = some (body, rest)) :
    ∃ part, cs = part ++ rest ∧
      ∀ tail, bodiesFrom quote (some acc) (part ++ tail) = body :: bodiesFrom none none tail := by
  induction cs generalizing quote acc with
  | nil => cases h
  | cons c cs ih =>
    rw [takeBracket] at h
    split at h
    · next hclose =>
      cases h
      obtain ⟨hnone, hc⟩ : quote = none ∧ c = ']' := by simpa using hclose
      subst hnone hc
      exact ⟨[']'], rfl, fun tail => rfl⟩
    · next hopen =>
      obtain ⟨part, rfl, hpart⟩ := ih h
      refine ⟨c :: part, rfl, fun tail => ?_⟩
      rw [List.cons_append, bodiesFrom]
      split
      · exact hpart tail
      · next hplain =>
        obtain ⟨hnone, hquote⟩ : quote = none ∧ isQuote c = false := by simpa using hplain
        subst hnone
        have hc : c ≠ ']' := by simpa using hopen
        simpa [quoteAfter, hquote, hc] using hpart tail

theorem reads_of_takeBracket {body rest : List Char} {p : Predicate}
    (hbody : takeBracket none [] cs = some (body, rest))
    (hp : readPredicate (Text.trim body) = .ok p) (hrest : Reads rest ps) :
    Reads ('[' :: cs) (p :: ps) := by
  obtain ⟨part, rfl, hpart⟩ := exists_takeBracket hbody
  have hbracket : Reads ('[' :: part) [p] := ⟨[body], hpart, .cons hp .nil⟩
  exact hbracket.append hrest

theorem reads_of_readPredicates {fuel : Nat} (h : readPredicates fuel cs = .ok ps) :
    Reads cs ps := by
  induction fuel generalizing cs ps with
  | zero =>
    cases cs with
    | nil =>
      cases h
      exact reads_nil
    | cons c cs => cases h
  | succ fuel ih =>
    unfold readPredicates at h
    split at h
    · cases h
      exact reads_nil
    · cases h
    · next heq =>
      cases heq
      split at h
      · cases h
      · next hbracket =>
        obtain ⟨p, hp, h⟩ := bind_eq_ok_iff.1 h
        obtain ⟨others, hothers, h⟩ := bind_eq_ok_iff.1 h
        cases h
        exact (reads_of_takeBracket hbracket hp (reads_of_trimLeft (ih hothers)))
    · cases h

theorem reads_of_readPathStep {below : Bool} {step : PathStep}
    (h : readPathStep part below = .ok step) : Reads part step.predicates := by
  obtain ⟨ps, hps, h⟩ := bind_eq_ok_iff.1 h
  generalize hname : (if (part.dropWhile (· ≠ '[')).isEmpty then part
    else Text.trim (part.takeWhile (· ≠ '['))) = name at h
  have hstep : step.predicates = ps ∧ (name ∈ [['.'], ['.', '.']] ∨ isPathName name = true) := by
    simp only [bind, Except.bind, pure, Except.pure, throw, throwThe, MonadExceptOf.throw] at h
    grind [PathStep.predicates]
  obtain ⟨hpredicates, hplain⟩ := hstep
  rw [hpredicates]
  have hreads : Reads name [] := by
    rcases hplain with hpoints | hpath
    · simp only [List.mem_cons, List.not_mem_nil, or_false] at hpoints
      rcases hpoints with rfl | rfl <;> exact reads_of_plain (by simp [isQuote])
    · rcases isPathName_iff.1 hpath with rfl | rfl | hword
      · exact reads_of_plain (by simp [isQuote])
      · exact reads_nil
      · exact reads_of_not_mem fun c hc => not_mem_pathMarks (hword.2 c hc)
  by_cases hrest : part.dropWhile (· ≠ '[') = []
  · rw [hrest] at hps hname
    cases hps
    have hpart : part = name := hname
    exact hpart ▸ hreads
  · rw [if_neg (by simpa using hrest)] at hname
    rw [← hname] at hreads
    rw [← List.takeWhile_append_dropWhile (p := (· ≠ '[')) (l := part)]
    exact (reads_of_trim hreads).append (reads_of_readPredicates hps)

theorem reads_of_readSteps {below : Bool} {parts : List (List Char)} {steps : List PathStep}
    (h : readSteps below parts = .ok steps) :
    Reads (parts.flatMap ('/' :: ·)) (steps.flatMap PathStep.predicates) := by
  have hslash : Reads ['/'] [] := reads_of_plain (by simp [isQuote])
  induction parts generalizing below steps with
  | nil =>
    cases below with
    | true => cases h
    | false =>
      cases h
      exact reads_nil
  | cons part rest ih =>
    rw [List.flatMap_cons, ← List.singleton_append, List.append_assoc]
    refine hslash.append ?_
    simp only [readSteps] at h
    split at h
    · next hempty =>
      cases below with
      | true => cases h
      | false =>
        simp only [Bool.false_eq_true, if_false] at h
        split at h
        · cases h
        · have hpart : Reads part [] := reads_of_trim (by
            rw [List.isEmpty_iff.1 hempty]
            exact reads_nil)
          exact hpart.append (ih h)
    · obtain ⟨step, hstep, h⟩ := bind_eq_ok_iff.1 h
      obtain ⟨others, hothers, h⟩ := bind_eq_ok_iff.1 h
      cases h
      exact (reads_of_trim (reads_of_readPathStep hstep)).append (ih hothers)

theorem flatMap_of_splitSteps {d : Nat} {cur : List Char} {parts : List (List Char)}
    (h : splitSteps d quote cur cs = .ok parts) :
    parts.flatMap ('/' :: ·) = '/' :: (cur.reverse ++ cs) := by
  induction cs generalizing d quote cur parts with
  | nil =>
    simp only [splitSteps] at h
    split at h
    · cases h
    · split at h <;> cases h
      simp
  | cons c cs ih =>
    simp only [splitSteps] at h
    split at h
    · simpa using ih h
    split at h
    · simpa using ih h
    split at h
    · split at h
      · cases h
      · simpa using ih h
    split at h
    · next hslash =>
      cases hrest : splitSteps d none [] cs with
      | error f =>
        rw [hrest] at h
        cases h
      | ok others =>
        rw [hrest] at h
        cases h
        have hc : c = '/' := by simp at hslash; exact hslash.1
        simp [ih hrest, hc]
    · simpa using ih h

theorem reads_of_compile {s : String} {path : ElementPath} (h : ElementPath.compile s = .ok path) :
    Reads s.toList (path.steps.flatMap PathStep.predicates) := by
  unfold ElementPath.compile at h
  simp only at h
  split at h
  · cases h
  obtain ⟨parts, hparts, h⟩ := bind_eq_ok_iff.1 h
  obtain ⟨steps, hsteps, h⟩ := bind_eq_ok_iff.1 h
  split at h
  · cases h
  cases h
  have hread := reads_of_readSteps hsteps
  have hsplit := flatMap_of_splitSteps hparts
  refine reads_of_trim ?_
  split at hread
  · next hslash =>
    obtain ⟨rest, hcs⟩ : ∃ rest, Text.trim s.toList = '/' :: rest :=
      List.head?_eq_some_iff.1 (by simpa using hslash)
    have hfirst : splitSteps 0 none [] ('/' :: rest) =
        (splitSteps 0 none [] rest).map ([] :: ·) := rfl
    rw [hcs] at hparts hsplit ⊢
    rw [hfirst] at hparts
    cases hrest : splitSteps 0 none [] rest with
    | error f =>
      rw [hrest] at hparts
      cases hparts
    | ok others =>
      rw [hrest] at hparts
      cases hparts
      rw [List.flatMap_cons, List.singleton_append, List.cons_inj_right] at hsplit
      rw [List.drop_one, List.tail_cons, hsplit] at hread
      exact hread
  · rw [hsplit] at hread
    exact reads_slash_iff.1 hread

end Reading

def Predicate.name? : Predicate → Option String
  | .hasAttribute name => some name
  | .attributeIs name _ => some name
  | .hasChild name => some name
  | .childTextIs name _ => some name
  | _ => none

def Predicate.value? : Predicate → Option String
  | .attributeIs _ v => some v
  | .childTextIs _ v => some v
  | .textIs v => some v
  | _ => none

section Documented

variable {p : Predicate} {body name right : List Char} {v : String}

theorem isWord_iff (h : isPathName name = true) :
    IsWord name ↔ String.ofList name ≠ "" ∧ String.ofList name ≠ "*" := by
  have hempty : String.ofList name = "" ↔ name = [] := String.ofList_eq_empty_iff
  have hstar : String.ofList name = String.ofList ['*'] ↔ name = ['*'] := String.ofList_inj
  rw [ne_eq, ne_eq, hempty, hstar]
  constructor
  · intro hword
    exact ⟨hword.1, hword.ne_star⟩
  · rintro ⟨hne, hnostar⟩
    exact ((isPathName_iff.1 h).resolve_left hnostar).resolve_left hne

theorem isPathName_of_attribute (h : Spelling.accepted.attributeName name) :
    isPathName name = true :=
  isPathName_iff.2 (h.elim (fun hword => .inr (.inr hword)) .inl)

theorem isPathName_of_child (h : Spelling.accepted.childName name) : isPathName name = true :=
  isPathName_iff.2 (h.elim (fun hword => .inr (.inr hword)) fun hnil => .inr (.inl hnil))

theorem Spelling.Assigns.documented_iff (h : Spelling.accepted.Assigns v right)
    (before : List Char) :
    Spelling.documented.Assigns v right ↔ ∀ q ∈ (before ++ right).getLast?, q ∉ v.toList := by
  constructor
  · intro hdocumented
    obtain ⟨begin, q, rfl, -, hv⟩ := hdocumented.exists_concat
    rw [← List.append_assoc, List.getLast?_concat]
    rintro _ ⟨rfl⟩
    exact hv
  · intro hlast
    obtain ⟨hbefore, hafter, hq, -⟩ := h
    refine .intro hbefore hafter hq ?_
    rw [String.toList_ofList] at hlast
    refine hlast _ ?_
    simp only [← List.cons_append, ← List.append_assoc]
    exact List.getLast?_concat

theorem Predicate.Written.documented_names (h : p.Written .documented body) :
    ∀ name ∈ p.name?, name ≠ "" ∧ name ≠ "*" := by
  have hname : ∀ {name : List Char}, IsWord name →
      ∀ n ∈ some (String.ofList name), n ≠ "" ∧ n ≠ "*" := by
    rintro name hword n ⟨rfl⟩
    exact (isWord_iff hword.isPathName).1 hword
  cases h with
  | hasAttribute hword => exact hname hword
  | attributeIs hword hv => exact hname hword
  | hasChild hword hdigits hpoint => exact hname hword
  | childTextIs hword hpoint hv => exact hname hword
  | textIs hv => simp [Predicate.name?]
  | position hne hdigits hn hone hmax => simp [Predicate.name?]
  | last => simp [Predicate.name?]

theorem Predicate.Written.documented_values (h : p.Written .documented body) :
    ∀ v ∈ p.value?, ∀ q ∈ body.getLast?, q ∉ v.toList := by
  have hvalue : ∀ {v right} (before : List Char), Spelling.documented.Assigns v right →
      ∀ w ∈ some v, ∀ q ∈ (before ++ right).getLast?, q ∉ w.toList := by
    rintro v right before hv w ⟨rfl⟩
    exact ((hv.mono fun _ _ _ => trivial).documented_iff before).1 hv
  cases h with
  | hasAttribute hword => simp [Predicate.value?]
  | attributeIs hword hv => exact hvalue _ hv
  | hasChild hword hdigits hpoint => simp [Predicate.value?]
  | childTextIs hword hpoint hv => exact hvalue _ hv
  | textIs hv => exact hvalue ['.'] hv
  | position hne hdigits hn hone hmax => simp [Predicate.value?]
  | last => simp [Predicate.value?]

/-- A predicate that is read is written as it is meant if its name is neither empty nor a star and
its value lacks the quote at the end. -/
theorem written_documented_iff (h : p.Written .accepted body) :
    (∃ p' : Predicate, p'.Written .documented body) ↔
      (∀ name ∈ p.name?, name ≠ "" ∧ name ≠ "*") ∧
        ∀ v ∈ p.value?, ∀ q ∈ body.getLast?, q ∉ v.toList := by
  constructor
  · rintro ⟨p', hp'⟩
    have hread := readPredicate_of_written hp'.accepted_of_documented
    rw [readPredicate_of_written h] at hread
    cases hread
    exact ⟨hp'.documented_names, hp'.documented_values⟩
  · rintro ⟨hname, hvalue⟩
    refine ⟨p, ?_⟩
    cases h with
    | hasAttribute hattribute =>
      exact .hasAttribute ((isWord_iff (isPathName_of_attribute hattribute)).2 (hname _ rfl))
    | attributeIs hattribute hv =>
      exact .attributeIs ((isWord_iff (isPathName_of_attribute hattribute)).2 (hname _ rfl))
        ((hv.documented_iff _).2 (hvalue _ rfl))
    | hasChild hword hdigits hpoint => exact .hasChild hword hdigits hpoint
    | childTextIs hchild hpoint hv =>
      exact .childTextIs ((isWord_iff (isPathName_of_child hchild)).2 (hname _ rfl)) hpoint
        ((hv.documented_iff _).2 (hvalue _ rfl))
    | textIs hv => exact .textIs ((hv.documented_iff ['.']).2 (hvalue _ rfl))
    | position hne hdigits hn hone hmax => exact .position hne hdigits hn hone hmax
    | last => exact .last

end Documented

/-- If a path compiles, its bodies are in order what its predicates are written as. All of them are
in a form that is read, and exactly those are in a form that is meant whose name is neither empty
nor a star and whose value lacks its quote. If a body is in no form that is read, the path does not
compile and no condition is built from it. -/
theorem compile_accepts_written_bodies (s : String) :
    (∀ path, ElementPath.compile s = .ok path →
      List.Forall₂ (fun body p => p.Written .accepted body ∧
          ((∃ p' : Predicate, p'.Written .documented body) ↔
            (∀ name ∈ p.name?, name ≠ "" ∧ name ≠ "*") ∧
              ∀ v ∈ p.value?, ∀ q ∈ body.getLast?, q ∉ v.toList))
        (bodies s) (path.steps.flatMap PathStep.predicates)) ∧
    ((∃ body ∈ bodies s, ∀ p : Predicate, ¬p.Written .accepted body) →
      ∃ f, ElementPath.compile s = .error f ∧
        ∀ (settings : Check.Settings) (target : String), 1 ≤ settings.maxDepth →
          settings.replaces (.xmlPathExists target s) = false →
          (Check.build settings (.xmlPathExists target s)).value = .error (.invalidPath s f)) := by
  have hread : ∀ path, ElementPath.compile s = .ok path →
      List.Forall₂ (fun body p => p.Written .accepted body) (bodies s)
        (path.steps.flatMap PathStep.predicates) := by
    intro path hpath
    obtain ⟨bs, hscan, hread⟩ := reads_of_compile hpath
    have hbodies : bodiesFrom none none s.toList = bs := by simpa [bodiesFrom] using hscan []
    rw [bodies, hbodies, List.forall₂_map_left_iff]
    exact hread.imp fun body p hp => (readPredicate_eq_ok_iff (Text.tight_trim body)).1 hp
  refine ⟨fun path hpath => ?_, ?_⟩
  · exact (hread path hpath).imp fun body p h => ⟨h, written_documented_iff h⟩
  · rintro ⟨body, hbody, hnone⟩
    cases hcompile : ElementPath.compile s with
    | ok path =>
      have hall : ∀ body ∈ bodies s, ∃ p : Predicate, p.Written .accepted body :=
        ((List.forall₂_and_left _ _).1 ((hread path hcompile).imp fun body p h => ⟨⟨p, h⟩, h⟩)).1
      obtain ⟨p, hp⟩ := hall body hbody
      exact absurd hp (hnone p)
    | error f =>
      refine ⟨f, rfl, fun settings target hdepth hreplaces => ?_⟩
      refine (Check.buildAt_eq_error_iff 1 _ _).2 ?_
      have hfault : settings.fault? (1, .xmlPathExists target s) = some (.invalidPath s f) := by
        simp [Check.Settings.fault?, Nat.not_lt.2 hdepth, hreplaces, Condition.textFault?, hcompile]
      simpa [Condition.preorder] using hfault

theorem compile_accepts_written_bodies_of_two_paths :
    (let path : ElementPath :=
      ⟨"a[ @b = \"c'\" ]/d[2]", false,
        [.child (.name "a") [.attributeIs "b" "c'"], .child (.name "d") [.position 2]]⟩
    ElementPath.compile "a[ @b = \"c'\" ]/d[2]" = .ok path ∧
      ∀ body ∈ bodies "a[ @b = \"c'\" ]/d[2]", ∃ p : Predicate, p.Written .documented body) ∧
    ∃ f, ElementPath.compile "a[b or c]" = .error f ∧
      (Check.build .usual (.xmlPathExists "d.xml" "a[b or c]")).value =
        .error (.invalidPath "a[b or c]" f) := by
  constructor
  · intro path
    have hpath : ElementPath.compile "a[ @b = \"c'\" ]/d[2]" = .ok path := by decide
    have hbodies := (compile_accepts_written_bodies "a[ @b = \"c'\" ]/d[2]").1 path hpath
    have htexts : bodies "a[ @b = \"c'\" ]/d[2]" = ["@b = \"c'\"".toList, "2".toList] := by
      decide
    have hpredicates : path.steps.flatMap PathStep.predicates =
        [.attributeIs "b" "c'", .position 2] := rfl
    rw [hpredicates, htexts] at hbodies
    rw [htexts, List.forall_mem_cons, List.forall_mem_singleton]
    obtain ⟨⟨-, hfirst⟩, hrest⟩ := List.forall₂_cons.1 hbodies
    obtain ⟨⟨-, hsecond⟩, -⟩ := List.forall₂_cons.1 hrest
    refine ⟨hpath, hfirst.2 ?_, hsecond.2 ?_⟩ <;> simp [Predicate.name?, Predicate.value?]
  · have hnone : ∃ body ∈ bodies "a[b or c]", ∀ p : Predicate, ¬p.Written .accepted body := by
      have hread : readPredicate "b or c".toList = .error (.unsupported "b or c") := by
        decide
      refine ⟨"b or c".toList, by decide, fun p hp => ?_⟩
      rw [readPredicate_of_written hp] at hread
      cases hread
    obtain ⟨f, hf, hbuild⟩ := (compile_accepts_written_bodies "a[b or c]").2 hnone
    exact ⟨f, hf, hbuild .usual "d.xml" (by decide) (by decide)⟩

def CompilesUndocumented (s : String) : Prop :=
  (∃ path, ElementPath.compile s = .ok path) ∧
    ∃ body ∈ bodies s, ∀ p : Predicate, ¬p.Written .documented body

theorem compilesUndocumented_of_read {s text : String} {p : Predicate}
    (hpath : ElementPath.compile s = .ok ⟨s, false, [.child (.name "a") [p]]⟩)
    (hmem : text.toList ∈ bodies s) (hread : readPredicate text.toList = .ok p)
    (hnot : ¬((∀ name ∈ p.name?, name ≠ "" ∧ name ≠ "*") ∧
      ∀ v ∈ p.value?, ∀ q ∈ text.toList.getLast?, q ∉ v.toList)) : CompilesUndocumented s := by
  refine ⟨⟨_, hpath⟩, _, hmem, fun p' hp' => ?_⟩
  obtain ⟨body, -, hbody⟩ := List.mem_map.1 hmem
  rw [← hbody] at hread
  have hwritten := (readPredicate_eq_ok_iff (Text.tight_trim body)).1 hread
  rw [hbody] at hwritten
  exact hnot ((written_documented_iff hwritten).1 ⟨p', hp'⟩)

/-- Two comparisons that are joined compile to one, and so do a comparison without a name and an
attribute with a star for a name. None of them is written in a form that is meant. -/
theorem compile_undocumented :
    CompilesUndocumented "a[@x='1' and @y='2']" ∧ CompilesUndocumented "a[='v']" ∧
      CompilesUndocumented "a[@*]" := by
  refine ⟨?_, ?_, ?_⟩
  · have hread : readPredicate "@x='1' and @y='2'".toList =
        .ok (.attributeIs "x" "1' and @y='2") := by decide
    exact compilesUndocumented_of_read (by decide) (by decide +kernel) hread
      (by simp [Predicate.name?, Predicate.value?])
  · have hread : readPredicate "='v'".toList = .ok (.childTextIs "" "v") := by decide
    exact compilesUndocumented_of_read (by decide) (by decide +kernel) hread
      (by simp [Predicate.name?])
  · have hread : readPredicate "@*".toList = .ok (.hasAttribute "*") := by decide
    exact compilesUndocumented_of_read (by decide) (by decide +kernel) hread
      (by simp [Predicate.name?])

end StorePolicy.Xml

import StorePolicy.Proofs.Attempt
import StorePolicy.Xml.ElementPath

/-!
# Compiled element paths

What is read as a path can be followed: positions count from one.
-/
namespace StorePolicy.Xml

def Predicate.Countable : Predicate → Prop
  | .position n => 1 ≤ n
  | _ => True

def PathStep.predicates : PathStep → List Predicate
  | .self => []
  | .parent => []
  | .child _ ps => ps
  | .descendant _ ps => ps

theorem countable_of_readPredicate {body : List Char} {p : Predicate}
    (h : readPredicate body = .ok p) : p.Countable := by
  unfold readPredicate at h
  simp only [bind, Except.bind, pure, Except.pure, throw, throwThe, MonadExceptOf.throw] at h
  split at h
  · nomatch h
  split at h
  · cases h
    trivial
  split at h
  · split at h
    · nomatch h
    split at h
    · nomatch h
    next hzero =>
      cases h
      exact Nat.one_le_iff_ne_zero.2 hzero
  -- past the digits no reading is a position
  cases p with
  | position n => grind
  | _ => trivial

theorem countable_of_readPredicates {fuel : Nat} {cs : List Char} {ps : List Predicate}
    (h : readPredicates fuel cs = .ok ps) : ∀ p ∈ ps, p.Countable := by
  induction fuel generalizing cs ps with
  | zero =>
    cases cs with
    | nil =>
      cases h
      simp
    | cons c cs => nomatch h
  | succ fuel ih =>
    unfold readPredicates at h
    split at h
    · cases h
      simp
    · nomatch h
    next heq =>
      cases heq
      split at h
      · nomatch h
      · obtain ⟨p, hp, h⟩ := bind_eq_ok_iff.1 h
        obtain ⟨rest, hrest, h⟩ := bind_eq_ok_iff.1 h
        cases h
        exact List.forall_mem_cons.2 ⟨countable_of_readPredicate hp, ih hrest⟩
    · nomatch h

theorem countable_of_readPathStep {part : List Char} {below : Bool} {s : PathStep}
    (h : readPathStep part below = .ok s) : ∀ p ∈ s.predicates, p.Countable := by
  obtain ⟨ps, hps, h⟩ := bind_eq_ok_iff.1 h
  have hpredicates : s.predicates = [] ∨ s.predicates = ps := by
    simp only [bind, Except.bind, pure, Except.pure, throw, throwThe, MonadExceptOf.throw] at h
    grind [PathStep.predicates]
  rcases hpredicates with hs | hs
  · simp [hs]
  · exact hs ▸ countable_of_readPredicates hps

theorem countable_of_readSteps {below : Bool} {parts : List (List Char)} {steps : List PathStep}
    (h : readSteps below parts = .ok steps) : ∀ s ∈ steps, ∀ p ∈ s.predicates, p.Countable := by
  induction parts generalizing below steps with
  | nil =>
    cases below with
    | true => nomatch h
    | false =>
      cases h
      simp
  | cons part rest ih =>
    simp only [readSteps] at h
    split at h
    · cases below with
      | true => nomatch h
      | false =>
        simp only [Bool.false_eq_true, if_false] at h
        split at h
        · nomatch h
        · exact ih h
    · obtain ⟨s, hs, h⟩ := bind_eq_ok_iff.1 h
      obtain ⟨others, hothers, h⟩ := bind_eq_ok_iff.1 h
      cases h
      exact List.forall_mem_cons.2 ⟨countable_of_readPathStep hs, ih hothers⟩

theorem countable_of_compile {s : String} {path : ElementPath} (h : ElementPath.compile s = .ok path) :
    ∀ step ∈ path.steps, ∀ p ∈ step.predicates, p.Countable := by
  unfold ElementPath.compile at h
  simp only at h
  split at h
  · nomatch h
  obtain ⟨parts, -, h⟩ := bind_eq_ok_iff.1 h
  obtain ⟨steps, hsteps, h⟩ := bind_eq_ok_iff.1 h
  split at h
  · nomatch h
  cases h
  exact countable_of_readSteps hsteps

end StorePolicy.Xml

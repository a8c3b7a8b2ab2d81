/-!
# Attempts in sequence

One attempt after another succeeds exactly if both do, and a run over a list exactly if its first
step does and then the run over the rest.
-/
namespace StorePolicy

variable {ε α β : Type}

theorem bind_eq_ok_iff {x : Except ε α} {f : α → Except ε β} {b : β} :
    x >>= f = .ok b ↔ ∃ a, x = .ok a ∧ f a = .ok b := by
  cases x with
  | error e => simp [bind, Except.bind]
  | ok a => simp [bind, Except.bind]

theorem foldlM_cons_eq_ok_iff {f : β → α → Except ε β} {a : α} {as : List α} {b b' : β} :
    (a :: as).foldlM f b = .ok b' ↔ ∃ b₁, f b a = .ok b₁ ∧ as.foldlM f b₁ = .ok b' := by
  rw [List.foldlM_cons, bind_eq_ok_iff]

theorem eq_ok_of_toOption {x : Except ε α} {a : α} (h : x.toOption = some a) : x = .ok a := by
  cases x with
  | error e => cases h
  | ok b => exact congrArg Except.ok (Option.some_inj.1 h)

theorem isOk_eq_of_faults {x : Except ε α} {y : Except ε β}
    (h : ∀ e, x = .error e ↔ y = .error e) : x.isOk = y.isOk := by
  cases x with
  | error e => rw [(h e).1 rfl]; rfl
  | ok a =>
    cases y with
    | error e => cases (h e).2 rfl
    | ok b => rfl

end StorePolicy

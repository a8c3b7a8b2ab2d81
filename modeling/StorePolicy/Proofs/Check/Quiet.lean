import StorePolicy.Check.Build
import StorePolicy.Check.Run

/-!
# What checks log

Building a check and running it notes what is odd about a target or a path, but never as an error.
So an error in the log of the engine is always about a condition that does not build.
-/
namespace StorePolicy

namespace Traced

variable {α β : Type}

def Quiet (x : Traced α) : Prop := ∀ line ∈ x.lines, line.level ≠ .error

theorem quiet_pure (a : α) : (pure a : Traced α).Quiet := by
  simp [Quiet, lines]

theorem Quiet.bind {x : Traced α} {f : α → Traced β} (hx : x.Quiet) (hf : (f x.value).Quiet) :
    (x >>= f).Quiet := by
  intro line hline
  rw [lines_bind, List.mem_append] at hline
  rcases hline with hline | hline
  · exact hx line hline
  · exact hf line hline

theorem quiet_log {level : Log.Level} (h : level ≠ .error) (message : String) :
    (log level message).Quiet := by
  simpa [Quiet, lines, log] using h

theorem lines_logAll (ls : List Log.Line) : (logAll ls).lines = ls := by
  induction ls with
  | nil => rfl
  | cons line rest ih => exact congrArg (List.cons line) ih

theorem quiet_logAll {ls : List Log.Line} (h : ∀ line ∈ ls, line.level ≠ .error) :
    (logAll ls).Quiet := by
  rw [Quiet, lines_logAll]
  exact h

theorem quiet_noteOpened (path : String) : (noteOpened path).Quiet := by
  simp [Quiet, lines, noteOpened]

theorem quiet_noteLocated (path : String) : (noteLocated path).Quiet := by
  simp [Quiet, lines, noteLocated]

end Traced

theorem Path.firstLog_quiet (strategies : List Path.Strategy) (j : Json) (path : String) :
    ∀ line ∈ Path.firstLog strategies j path, line.level ≠ .error := by
  induction strategies with
  | nil => simp [firstLog]
  | cons s rest ih =>
    unfold firstLog
    cases s.resolve j path with
    | none => simpa using ih
    | some found =>
      cases found with
      | nil => exact ih
      | cons v vs => simp

namespace Check

open Traced

variable {s : Settings} {t : FileTree} {root target : String}

theorem buildLeaf_quiet (c : Condition) : (buildLeaf s c target).Quiet := by
  unfold buildLeaf
  split
  · exact (quiet_log (by decide) _).bind (quiet_pure _)
  · split <;> exact quiet_pure _

mutual
theorem buildAt_quiet (depth : Nat) (c : Condition) : (buildAt s depth c).Quiet := by
  unfold buildAt
  split
  · exact quiet_pure _
  · cases c with
    | composite logic checks =>
      refine (buildAll_quiet (depth + 1) checks).bind ?_
      split <;> exact quiet_pure _
    | _ => exact buildLeaf_quiet _

theorem buildAll_quiet (depth : Nat) (cs : List Condition) : (buildAll s depth cs).Quiet := by
  cases cs with
  | nil => exact quiet_pure _
  | cons c rest =>
    unfold buildAll
    refine (buildAt_quiet depth c).bind ?_
    split
    · exact quiet_pure _
    · refine (buildAll_quiet depth rest).bind ?_
      split <;> exact quiet_pure _
end

theorem nearestInside_quiet (base : FilePlace) (paths : List String) :
    (nearestInside t base paths).Quiet := by
  induction paths with
  | nil => exact quiet_pure _
  | cons path rest ih =>
    unfold nearestInside
    refine (quiet_noteLocated path).bind ?_
    split
    · exact quiet_pure _
    · exact ih
    · exact (quiet_log (by decide) _).bind (quiet_pure _)

theorem resolvesInside_quiet : (resolvesInside t root target).Quiet := by
  unfold resolvesInside
  refine (quiet_noteLocated root).bind ?_
  split
  · exact nearestInside_quiet _ _
  · exact (quiet_log (by decide) _).bind (quiet_pure _)

theorem readTarget_quiet : (readTarget t root target).Quiet := by
  unfold readTarget
  refine (quiet_noteOpened _).bind ?_
  split
  · exact quiet_pure _
  · exact (quiet_log (by decide) _).bind (quiet_pure _)

theorem malformed_quiet (format cause : String) : (malformed format target cause).Quiet :=
  (quiet_log (by decide) _).bind (quiet_pure _)

theorem run_probe_quiet (p : Probe) : (p.run t root target).Quiet := by
  cases p with
  | presence expected => exact (quiet_noteOpened _).bind (quiet_pure _)
  | json path strategies test =>
    refine readTarget_quiet.bind ?_
    split
    · exact quiet_pure _
    · split
      · exact malformed_quiet _ _
      · exact (quiet_logAll (Path.firstLog_quiet _ _ _)).bind (quiet_pure _)
  | yaml path =>
    refine readTarget_quiet.bind ?_
    split
    · exact quiet_pure _
    · split
      · exact malformed_quiet _ _
      · exact quiet_pure _
  | xml path =>
    refine readTarget_quiet.bind ?_
    split
    · exact quiet_pure _
    · split
      · exact malformed_quiet _ _
      · exact quiet_pure _
  | text pattern =>
    refine readTarget_quiet.bind ?_
    split <;> exact quiet_pure _

mutual
theorem run_quiet (k : Check) : (k.run t root).Quiet := by
  cases k with
  | probe target p => exact run_probe_quiet p
  | guarded target p =>
    refine resolvesInside_quiet.bind ?_
    split
    · exact run_probe_quiet p
    · exact (quiet_log (by decide) _).bind (quiet_pure _)
  | escaped => exact quiet_pure _
  | composite logic checks => exact (runUntil_quiet logic.decisive checks).bind (quiet_pure _)

theorem runUntil_quiet (wanted : Bool) (ks : List Check) :
    (runUntil t root wanted ks).Quiet := by
  cases ks with
  | nil => exact quiet_pure _
  | cons k rest =>
    refine (run_quiet k).bind ?_
    split
    · exact quiet_pure _
    · exact runUntil_quiet wanted rest
end

end Check
end StorePolicy

import StorePolicy.Pattern.Program
import StorePolicy.Pattern.Reader

/-!
# Patterns

A pattern is a regular expression that is searched for in a text. A text that is no pattern,
or one whose program would take too much room, does not compile.

The room is counted on the expression, before there is a program, and is an estimate: where a
pattern comes close to the limit, a compiler that measures its program may answer otherwise.
-/
namespace StorePolicy

namespace Pattern

def utf8Length (n : Nat) : Nat :=
  if n < 0x80 then 1 else if n < 0x800 then 2 else if n < 0x10000 then 3 else 4

namespace CharSet

def room (s : CharSet) : Nat :=
  match s with
  | [(a, b)] => if a = b then 32 * utf8Length a else if b < 128 then 40 else 120
  | s => if s.isBasic then 32 + 8 * s.length else 60 * s.length

end CharSet

namespace Expression

def room : Expression → Nat
  | .empty => 32
  | .chars s => s.room
  | .look _ => 32
  | .seq a b => a.room + b.room
  | .alt a b => 72 + a.room + b.room
  | .group e => 64 + e.room
  | .repetition e least none => 40 + max least 1 * e.room
  | .repetition e least (some most) => 32 + least * e.room + (most - least) * (40 + e.room)

end Expression

def maxRoom : Nat := 10 * Nat.pow 2 20

end Pattern

inductive Pattern.Fault where
  | malformed
  | tooLarge
deriving DecidableEq

def Pattern.Fault.message : Pattern.Fault → String
  | .malformed => "regex parse error: not a regular expression"
  | .tooLarge => "Compiled regex exceeds size limit of " ++ toString Pattern.maxRoom ++ " bytes."

structure Pattern where
  program : Pattern.Program

namespace Pattern

def compile (text : String) : Except Fault Pattern :=
  match (Tree.ofString? text).bind (·.expression? .usual) with
  | none => .error .malformed
  | some (e, _) => if e.room ≤ maxRoom then .ok ⟨.ofExpression e⟩ else .error .tooLarge

def isMatch (p : Pattern) (text : String) : Bool := p.program.matchesText text

end Pattern
end StorePolicy

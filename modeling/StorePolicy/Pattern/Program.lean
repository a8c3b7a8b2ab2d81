import StorePolicy.Pattern.Expression

/-!
# Programs of patterns

An expression as a program of numbered instructions: each reads a character of a set, asserts
something about a place, or splits. A text matches if some run from some place of it ends.
All runs are followed together, one character at a time.
-/
namespace StorePolicy.Pattern

inductive Instruction where
  | read (set : Text.Ranges) (next : Nat)
  | look (kind : Look) (next : Nat)
  | split (left right : Nat)
  | done
  | dead

structure Program where
  code : Array Instruction
  entry : Nat

namespace Expression

/-- Adds code in front of other code: from where to go on, to where to begin. -/
abbrev Emit := Nat → Array Instruction → Nat × Array Instruction

def emitTimes (emit : Emit) : Nat → Emit
  | 0, next, code => (next, code)
  | n + 1, next, code =>
    let (entry, code) := emit next code
    emitTimes emit n entry code

def emitUpTo (emit : Emit) (done : Nat) : Nat → Emit
  | 0, next, code => (next, code)
  | n + 1, next, code =>
    let (entry, code) := emit next code
    emitUpTo emit done n code.size (code.push (.split entry done))

def emitLoop (emit : Emit) : Emit := fun next code =>
  let start := code.size
  let (entry, code) := emit start (code.push .dead)
  (start, code.setIfInBounds start (.split entry next))

def emit : Expression → Emit
  | .empty => fun next code => (next, code)
  | .chars s => fun next code => (code.size, code.push (.read ⟨s.toArray⟩ next))
  | .look k => fun next code => (code.size, code.push (.look k next))
  | .seq a b => fun next code =>
    let (n, code) := b.emit next code
    a.emit n code
  | .alt a b => fun next code =>
    let (x, code) := a.emit next code
    let (y, code) := b.emit next code
    (code.size, code.push (.split x y))
  | .group e => e.emit
  | .repetition e least none => fun next code =>
    let (entry, code) := emitLoop e.emit next code
    emitTimes e.emit least entry code
  | .repetition e least (some most) => fun next code =>
    let (entry, code) := emitUpTo e.emit next (most - least) next code
    emitTimes e.emit least entry code

end Expression

namespace Program

def ofExpression (e : Expression) : Program :=
  let (entry, code) := e.emit 0 #[.done]
  ⟨code, entry⟩

/-- The runs that are at a place of the text: those that will read a character, and whether one
has ended. -/
structure Front where
  visited : Array Bool
  readers : List Nat
  ended : Bool

def follow (p : Program) (before after : Option Char) : Nat → List Nat → Front → Front
  | 0, _, f => f
  | _, [], f => f
  | fuel + 1, n :: rest, f =>
    if f.visited.getD n true then p.follow before after fuel rest f
    else
      let f := { f with visited := f.visited.setIfInBounds n true }
      match p.code[n]? with
      | some (.read _ _) => p.follow before after fuel rest { f with readers := n :: f.readers }
      | some (.look k next) =>
        p.follow before after fuel (if k.holds before after then next :: rest else rest) f
      | some (.split x y) => p.follow before after fuel (x :: y :: rest) f
      | some .done => { f with ended := true }
      | _ => p.follow before after fuel rest f

def front (p : Program) (before after : Option Char) (starts : List Nat) : Front :=
  p.follow before after (2 * p.code.size + starts.length + 1) starts
    ⟨Array.replicate p.code.size false, [], false⟩

def advance (p : Program) (c : Char) (readers : List Nat) : List Nat :=
  readers.filterMap fun (n : Nat) =>
    match p.code[n]? with
    | some (.read s next) => if s.contains c then some next else none
    | _ => none

def search (p : Program) (before : Option Char) (starts : List Nat) : List Char → Bool
  | [] => (p.front before none (p.entry :: starts)).ended
  | c :: rest =>
    let f := p.front before (some c) (p.entry :: starts)
    f.ended || p.search (some c) (p.advance c f.readers) rest

def matchesText (p : Program) (s : String) : Bool := p.search none [] s.toList

end Program
end StorePolicy.Pattern

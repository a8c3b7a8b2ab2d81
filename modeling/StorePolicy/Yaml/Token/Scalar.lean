import StorePolicy.Yaml.Cursor
import StorePolicy.Yaml.Token

/-!
# Texts of scalars

Plain, quoted and block scalars are read to their texts. A gap between two words on one
line stands as it is; line ends are folded, a single one into a space and others into
one less than there are. `none` is a text that breaks the rules.
-/
namespace StorePolicy.Yaml

/-- White space between two words: blanks on a line, or line ends. -/
structure Gap where
  blanks : List Char
  first : List Char
  more : List Char
  broken : Bool

namespace Gap

def none : Gap := ⟨[], [], [], false⟩

def continued : Gap := ⟨[], [], [], true⟩

def text (g : Gap) : List Char :=
  if g.broken then
    match g.first with
    | '\n' :: _ => if g.more.isEmpty then [' '] else g.more
    | _ => g.first ++ g.more
  else g.blanks

def read (indent : Int) : Nat → Cursor → Gap → Option (Cursor × Gap)
  | 0, _, _ => Option.none
  | fuel + 1, c, g =>
    match c.rest with
    | [] => some (c, g)
    | ch :: _ =>
      if isGap ch then
        if g.broken then
          if ch == '\t' && (c.column : Int) < indent then Option.none
          else read indent fuel (c.skip 1) g
        else read indent fuel (c.skip 1) ⟨g.blanks ++ [ch], g.first, g.more, g.broken⟩
      else if isBreak ch then
        if g.broken then read indent fuel c.skipBreak ⟨g.blanks, g.first, g.more ++ c.breakText, true⟩
        else read indent fuel c.skipBreak ⟨[], c.breakText, g.more, true⟩
      else some (c, g)

end Gap

def plainWord (flow : Bool) : Nat → Cursor → List Char → Option (Cursor × List Char)
  | 0, _, _ => none
  | fuel + 1, c, acc =>
    match c.rest with
    | [] => some (c, acc)
    | ch :: _ =>
      if isGap ch || isBreak ch then some (c, acc)
      else if flow && ch == ':' && c.oneOf 1 [',', '?', '[', ']', '\x7b', '\x7d'] then none
      else if (ch == ':' && c.endsAt 1) || (flow && [',', '[', ']', '\x7b', '\x7d'].contains ch) then
        some (c, acc)
      else plainWord flow fuel (c.skip 1) (ch :: acc)

/-- A plain scalar: its text, the cursor after it, and whether a line ended after its last word. -/
def plainLoop (flow : Bool) (indent : Int) :
    Nat → Cursor → List Char → Gap → Option (List Char × Cursor × Bool)
  | 0, _, _, _ => none
  | fuel + 1, c, acc, gap => do
    if c.atDocumentMark || c.is 0 '#' then return (acc.reverse, c, gap.broken)
    let (next, word) ← plainWord flow (c.rest.length + 1) c []
    let acc := if word.isEmpty then acc else word ++ gap.text.reverse ++ acc
    let gap := if word.isEmpty then gap else Gap.none
    if !(next.onGap || next.onBreak) then return (acc.reverse, next, gap.broken)
    let (after, gap) ← Gap.read indent (next.rest.length + 1) next gap
    if !flow && (after.column : Int) < indent then return (acc.reverse, after, gap.broken)
    plainLoop flow indent fuel after acc gap

def readPlain (flow : Bool) (indent : Int) (c : Cursor) : Option (List Char × Cursor × Bool) :=
  plainLoop flow indent (c.rest.length + 1) c [] Gap.none

def hexDigit? (c : Char) : Option Nat :=
  if c.isDigit then some (c.toNat - 48)
  else if 'a' ≤ c ∧ c ≤ 'f' then some (c.toNat - 87)
  else if 'A' ≤ c ∧ c ≤ 'F' then some (c.toNat - 55)
  else none

def hexValue? (cs : List Char) : Option Nat :=
  cs.foldl (fun n c => do return (← n) * 16 + (← hexDigit? c)) (some 0)

def escape? (c : Cursor) : Option (Char × Nat) := do
  let coded (n : Nat) : Option (Char × Nat) := do
    let digits := (c.rest.drop 2).take n
    if digits.length < n then none
    else
      let v ← hexValue? digits
      if (0xD800 ≤ v && v ≤ 0xDFFF) || v > 0x10FFFF then none else return (Char.ofNat v, n + 2)
  let simple (n : Nat) : Option (Char × Nat) := some (Char.ofNat n, 2)
  match ← c.at? 1 with
  | '0' => simple 0
  | 'a' => simple 7
  | 'b' => simple 8
  | 't' | '\t' => simple 9
  | 'n' => simple 10
  | 'v' => simple 11
  | 'f' => simple 12
  | 'r' => simple 13
  | 'e' => simple 27
  | ' ' => simple 32
  | '"' => simple 34
  | '/' => simple 47
  | '\\' => simple 92
  | 'N' => simple 0x85
  | '_' => simple 0xA0
  | 'L' => simple 0x2028
  | 'P' => simple 0x2029
  | 'x' => coded 2
  | 'u' => coded 4
  | 'U' => coded 8
  | _ => none

def quotedWord (single : Bool) : Nat → Cursor → List Char → Option (Cursor × List Char × Gap)
  | 0, _, _ => none
  | fuel + 1, c, acc =>
    match c.rest with
    | [] => some (c, acc, Gap.none)
    | ch :: _ =>
      if isGap ch || isBreak ch then some (c, acc, Gap.none)
      else if single && ch == '\'' && c.is 1 '\'' then quotedWord single fuel (c.skip 2) ('\'' :: acc)
      else if ch == (if single then '\'' else '"') then some (c, acc, Gap.none)
      else if !single && ch == '\\' then
        if ((c.at? 1).map isBreak).getD false then some ((c.skip 1).skipBreak, acc, Gap.continued)
        else
          match escape? c with
          | none => none
          | some (e, n) => quotedWord single fuel (c.skip n) (e :: acc)
      else quotedWord single fuel (c.skip 1) (ch :: acc)

def quotedLoop (single : Bool) : Nat → Cursor → List Char → Option (List Char × Cursor)
  | 0, _, _ => none
  | fuel + 1, c, acc => do
    if c.atDocumentMark || c.rest.isEmpty then none
    let (next, acc, gap) ← quotedWord single (c.rest.length + 1) c acc
    if next.is 0 (if single then '\'' else '"') then return (acc.reverse, next.skip 1)
    let (after, gap) ← Gap.read 0 (next.rest.length + 1) next gap
    quotedLoop single fuel after (gap.text.reverse ++ acc)

def readQuoted (single : Bool) (c : Cursor) : Option (List Char × Cursor) :=
  quotedLoop single (c.rest.length + 1) (c.skip 1) []

inductive Chomping where
  | clip
  | strip
  | keep
deriving DecidableEq

/-- Empty lines and indentation before a line of a block scalar: the line ends passed, the
widest indentation seen, and the cursor. With no `indent` yet, all spaces are skipped. -/
def blockBreaks (indent : Option Int) :
    Nat → Cursor → Int → List Char → Option (List Char × Int × Cursor)
  | 0, _, _, _ => none
  | fuel + 1, c, widest, acc =>
    let below (c : Cursor) : Bool := match indent with
      | none => true
      | some i => (c.column : Int) < i
    let spaces := c.rest.takeWhile (· == ' ')
    let n := match indent with
      | none => spaces.length
      | some i => min spaces.length (i - c.column).toNat
    let c := c.skip n
    let widest := max widest c.column
    if below c && c.is 0 '\t' then none
    else if c.onBreak then blockBreaks indent fuel c.skipBreak widest (acc ++ c.breakText)
    else some (acc, widest, c)

/-- The lines of a block scalar that stand at `indent`. `lead` is the line end before the
present line and `trail` the ends of the empty lines after it. -/
def blockLines (literal : Bool) (indent : Int) : Nat → Cursor → List Char → List Char →
    List Char → Bool → Option (List Char × List Char × List Char × Cursor)
  | 0, _, _, _, _, _ => none
  | fuel + 1, c, acc, lead, trail, wasBlank => do
    if (c.column : Int) ≠ indent || c.rest.isEmpty then return (acc.reverse, lead, trail, c)
    let blank := c.onGap
    let fold := !literal && lead.head? == some '\n' && !wasBlank && !blank
    let joint := if fold then (if trail.isEmpty then [' '] else []) else lead
    let (run, next) := c.takeRun fun _ => true
    let acc := run.reverse ++ trail.reverse ++ joint.reverse ++ acc
    let lead := next.breakText
    let (trail, _, after) ← blockBreaks (some indent) (next.rest.length + 1) next.skipBreak 0 []
    blockLines literal indent fuel after acc lead trail blank

def blockHeader (c : Cursor) : Option (Chomping × Option Nat × Cursor) := do
  let chomp? (c : Cursor) : Option Chomping :=
    if c.is 0 '+' then some .keep else if c.is 0 '-' then some .strip else none
  let digit? (c : Cursor) : Option Nat :=
    match c.at? 0 with
    | some ch => if ch.isDigit then some (ch.toNat - 48) else none
    | none => none
  let result : Chomping × Option Nat × Cursor :=
    match chomp? c with
    | some k =>
      match digit? (c.skip 1) with
      | some d => (k, some d, c.skip 2)
      | none => (k, none, c.skip 1)
    | none =>
      match digit? c with
      | some d =>
        match chomp? (c.skip 1) with
        | some k => (k, some d, c.skip 2)
        | none => (.clip, some d, c.skip 1)
      | none => (.clip, none, c)
  if result.2.1 == some 0 then none else return result

/-- A block scalar, from its mark; `outer` is the indentation around it. -/
def readBlock (literal : Bool) (outer : Int) (c : Cursor) : Option (List Char × Cursor) := do
  let (chomping, increment, c) ← blockHeader (c.skip 1)
  let c := c.skipGaps.skipComment
  if !c.onLineEnd then none
  let c := c.skipBreak
  let fuel := c.rest.length + 1
  let given : Option Int := increment.map fun n => if 0 ≤ outer then outer + n else n
  let (trail, widest, c) ← blockBreaks given fuel c 0 []
  let indent := given.getD (max (max widest (outer + 1)) 1)
  let (text, lead, trail, c) ← blockLines literal indent fuel c [] [] trail false
  let text := if chomping = .strip then text else text ++ lead
  return (if chomping = .keep then text ++ trail else text, c)

end StorePolicy.Yaml

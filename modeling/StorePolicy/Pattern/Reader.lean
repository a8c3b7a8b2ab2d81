import StorePolicy.Pattern.Tree
import StorePolicy.Text.Blank
import StorePolicy.Text.Letters

/-!
# Reading patterns

The text of a pattern is read into its tree; none if it is no pattern. Under the verbose
flag blanks and comments between the parts are passed over. Names of groups must be
different. There are no back references and no looking around.
-/
namespace StorePolicy.Pattern

structure Reader where
  rest : List Char
  verbose : Bool
  names : List String

namespace Reader

def isHexDigit (c : Char) : Bool :=
  c.isDigit || ('a' ≤ c && c ≤ 'f') || ('A' ≤ c && c ≤ 'F')

def hexValue (cs : List Char) : Nat :=
  cs.foldl (fun n c =>
    n * 16 + (if c.isDigit then c.toNat - 48 else if 'a' ≤ c then c.toNat - 87 else c.toNat - 55)) 0

def dropComments : Nat → List Char → List Char
  | 0, cs => cs
  | fuel + 1, cs =>
    match cs.dropWhile Text.isBlank with
    | '#' :: rest => dropComments fuel ((rest.dropWhile (· ≠ '\n')).drop 1)
    | cs => cs

def skip (r : Reader) : Reader :=
  if r.verbose then { r with rest := dropComments (r.rest.length + 1) r.rest } else r

def next (r : Reader) : Reader := { r with rest := r.rest.drop 1 }.skip

def drop (r : Reader) (n : Nat) : Reader := { r with rest := r.rest.drop n }

def head? (r : Reader) : Option Char := r.rest.head?

def startsWith (r : Reader) (cs : List Char) : Bool := cs.isPrefixOf r.rest

def isMeta (c : Char) : Bool :=
  ['\\', '.', '+', '*', '?', '(', ')', '|', '[', ']', '\x7b', '\x7d', '^', '$', '#', '&', '-', '~'].contains c

def escapable (c : Char) : Bool :=
  isMeta c || (c.toNat < 128 && !c.isAlphanum && c ≠ '<' && c ≠ '>')

def charOf? (digits : List Char) : Option Char :=
  let n := hexValue digits
  if n.isValidChar then some (Char.ofNat n) else none

def hexInBraces : Nat → List Char → Reader → Option (List Char × Reader)
  | 0, _, _ => none
  | fuel + 1, acc, r =>
    match r.rest with
    | [] => none
    | '\x7d' :: _ => if acc.isEmpty then none else some (acc.reverse, r.next)
    | c :: _ => if isHexDigit c then hexInBraces fuel (c :: acc) r.next else none

def hexDigits : Nat → List Char → Reader → Option (List Char × Reader)
  | 0, acc, r => some (acc.reverse, r)
  | n + 1, acc, r =>
    match r.head? with
    | some c => if isHexDigit c then hexDigits n (c :: acc) r.next else none
    | none => none

def hexLiteral (width : Nat) (r : Reader) : Option (Literal × Reader) := do
  let r := r.next
  match ← r.head? with
  | '\x7b' =>
    let r := r.next
    let (digits, r) ← hexInBraces (r.rest.length + 1) [] r
    return (⟨← charOf? digits, false⟩, r)
  | _ =>
    let (digits, r) ← hexDigits width [] r
    return (⟨← charOf? digits, width = 2⟩, r)

def propertyName : Nat → List Char → Reader → Option (String × Reader)
  | 0, _, _ => none
  | fuel + 1, acc, r =>
    match r.rest with
    | [] => none
    | '\x7d' :: _ => some (String.ofList acc.reverse, r.drop 1)
    | c :: _ => propertyName fuel (c :: acc) r.next

def property (r : Reader) : Option (String × Reader) := do
  let r := r.next
  match ← r.head? with
  | '\x7b' =>
    let r := r.next
    propertyName (r.rest.length + 1) [] r
  | '\\' => none
  | c => return (String.singleton c, r.next)

def boundaryChar (c : Char) : Bool := c.isAlpha || c = '-'

def boundaryName : Nat → List Char → Reader → List Char × Reader
  | 0, acc, r => (acc.reverse, r)
  | fuel + 1, acc, r =>
    match r.head? with
    | some c => if boundaryChar c then boundaryName fuel (c :: acc) r.next else (acc.reverse, r)
    | none => (acc.reverse, r)

/-- What may follow `\b` in braces; a repetition in braces is left alone. -/
def boundary (r : Reader) : Option (Assertion × Reader) :=
  match r.rest with
  | '\x7b' :: _ =>
    let inside := r.next
    match inside.head? with
    | none => none
    | some c =>
      if boundaryChar c then
        let (name, after) := boundaryName (inside.rest.length + 1) [] inside
        if after.head? ≠ some '\x7d' then none
        else
          match String.ofList name with
          | "start" => some (.wordStart, after.drop 1)
          | "end" => some (.wordEnd, after.drop 1)
          | "start-half" => some (.wordStartHalf, after.drop 1)
          | "end-half" => some (.wordEndHalf, after.drop 1)
          | _ => none
      else some (.wordBoundary, r)
  | _ => some (.wordBoundary, r)

def escape (r : Reader) : Option (Tree × Reader) := do
  let r := r.drop 1
  let c ← r.head?
  let after := r.drop 1
  let literal (n : Nat) : Option (Tree × Reader) := some (.literal ⟨Char.ofNat n, false⟩, after)
  match c with
  | 'x' => (hexLiteral 2 r).map fun (l, r) => (.literal l, r)
  | 'u' => (hexLiteral 4 r).map fun (l, r) => (.literal l, r)
  | 'U' => (hexLiteral 8 r).map fun (l, r) => (.literal l, r)
  | 'p' => (property r).map fun (n, r) => (.property n false, r)
  | 'P' => (property r).map fun (n, r) => (.property n true, r)
  | 'd' => return (.short .digit false, after)
  | 'D' => return (.short .digit true, after)
  | 's' => return (.short .space false, after)
  | 'S' => return (.short .space true, after)
  | 'w' => return (.short .word false, after)
  | 'W' => return (.short .word true, after)
  | 'a' => literal 7
  | 'f' => literal 12
  | 't' => literal 9
  | 'n' => literal 10
  | 'r' => literal 13
  | 'v' => literal 11
  | 'A' => return (.assertion .textStart, after)
  | 'z' => return (.assertion .textEnd, after)
  | 'b' => (boundary after).map fun (k, r) => (.assertion k, r)
  | 'B' => return (.assertion .notWordBoundary, after)
  | '<' => return (.assertion .wordStart, after)
  | '>' => return (.assertion .wordEnd, after)
  | c => if escapable c then return (.literal ⟨c, false⟩, after) else none

def className? (cs : List Char) : Option String :=
  let name := String.ofList cs
  if ["alnum", "alpha", "ascii", "blank", "cntrl", "digit", "graph", "lower", "print", "punct",
      "space", "upper", "word", "xdigit"].contains name then some name else none

def namedClass (r : Reader) : Option (ClassTree × Reader) :=
  match r.rest with
  | '[' :: ':' :: rest =>
    let (negated, rest) := match rest with
      | '^' :: rest => (true, rest)
      | _ => (false, rest)
    match rest.dropWhile (· ≠ ':') with
    | ':' :: ']' :: after =>
      (className? (rest.takeWhile (· ≠ ':'))).map fun name => (.named name negated, { r with rest := after })
    | _ => none
  | _ => none

def classItem (r : Reader) : Option (Tree × Reader) :=
  match r.rest with
  | [] => none
  | '\\' :: _ => escape r
  | c :: rest => some (.literal ⟨c, false⟩, { r with rest := rest })

def itemOf? : Tree → Option ClassTree
  | .literal l => some (.literal l)
  | .short k n => some (.short k n)
  | .property p n => some (.property p n)
  | _ => none

def peek? (r : Reader) : Option Char := r.next.head?

def classRange (r : Reader) : Option (ClassTree × Reader) := do
  let (first, r) ← classItem r
  let r := r.skip
  let c ← r.head?
  if c ≠ '-' || r.peek? = some ']' || r.peek? = some '-' then return (← itemOf? first, r)
  let r := r.next
  let (last, r) ← classItem r
  match first, last with
  | .literal a, .literal b => if a.char ≤ b.char then return (.range a b, r) else none
  | _, _ => none

def hyphens : Nat → List ClassTree → Reader → List ClassTree × Reader
  | 0, items, r => (items, r)
  | fuel + 1, items, r =>
    if r.head? = some '-' then hyphens fuel (.literal ⟨'-', false⟩ :: items) r.next else (items, r)

/-- The beginning of a class after its bracket: whether it is negated, and the hyphens or the
bracket that stand there for themselves. -/
def classStart (r : Reader) : Bool × List ClassTree × Reader :=
  let r := r.next
  let (negated, r) := if r.head? = some '^' then (true, r.next) else (false, r)
  let (items, r) := hyphens (r.rest.length + 1) [] r
  if items.isEmpty && r.head? = some ']' then (negated, [.literal ⟨']', false⟩], r.next)
  else (negated, items, r)

def operation? (r : Reader) : Option SetOperation :=
  match r.rest with
  | '&' :: '&' :: _ => some .intersection
  | '-' :: '-' :: _ => some .difference
  | '~' :: '~' :: _ => some .symmetric
  | _ => none

def joined (pending : Option (SetOperation × ClassTree)) (items : List ClassTree) : ClassTree :=
  let right := ClassTree.ofItems items.reverse
  match pending with
  | some (op, left) => .operation op left right
  | none => right

def classBody : Nat → Option (SetOperation × ClassTree) → List ClassTree → Reader →
    Option (ClassTree × Reader)
  | 0, _, _, _ => none
  | fuel + 1, pending, items, r =>
    let r := r.skip
    match r.rest with
    | [] => none
    | ']' :: _ => some (joined pending items, r.drop 1)
    | '[' :: _ =>
      match namedClass r with
      | some (t, r) => classBody fuel pending (t :: items) r
      | none =>
        let (negated, start, inside) := classStart r
        match classBody fuel none start inside with
        | some (body, r) => classBody fuel pending (.brackets negated body :: items) r
        | none => none
    | _ =>
      match operation? r with
      | some op => classBody fuel (some (op, joined pending items)) [] (r.drop 2)
      | none =>
        match classRange r with
        | some (t, r) => classBody fuel pending (t :: items) r
        | none => none

def flag? : Char → Option Flag
  | 'i' => some .ignoreCase
  | 'm' => some .multiLine
  | 's' => some .dotAll
  | 'U' => some .swapGreed
  | 'u' => some .unicode
  | 'R' => some .crlf
  | 'x' => some .verbose
  | _ => none

def flagItems (on : Bool) (items : List FlagItem) (dangling : Bool) :
    List Char → Option (List FlagItem × Char × List Char)
  | [] => none
  | c :: rest =>
    if c = ':' || c = ')' then if dangling then none else some (items.reverse, c, rest)
    else if c = '-' then if on then flagItems false items true rest else none
    else
      match flag? c with
      | some f =>
        if items.any (·.flag == f) then none else flagItems on (⟨f, on⟩ :: items) false rest
      | none => none

def isNameStart (c : Char) : Bool := c = '_' || (Text.isAlphanumeric c && !Text.isNumber c)

def isNameChar (c : Char) : Bool :=
  ['_', '.', '[', ']'].contains c || Text.isAlphanumeric c

def groupName (r : Reader) : Option Reader :=
  let name := r.rest.takeWhile (· ≠ '>')
  match r.rest.dropWhile (· ≠ '>'), name with
  | '>' :: after, c :: more =>
    let s := String.ofList name
    if isNameStart c && more.all isNameChar && !r.names.contains s then
      some { r with rest := after, names := s :: r.names }
    else none
  | _, _ => none

inductive GroupStart where
  | flagsOnly (items : List FlagItem)
  | body (items : List FlagItem)

def groupStart (r : Reader) : Option (GroupStart × Reader) :=
  let r := r.next
  if [['?', '='], ['?', '!'], ['?', '<', '='], ['?', '<', '!']].any r.startsWith then none
  else if r.startsWith ['?', 'P', '<'] then (groupName (r.drop 3)).map fun r => (.body [], r)
  else if r.startsWith ['?', '<'] then (groupName (r.drop 2)).map fun r => (.body [], r)
  else if r.startsWith ['?'] then
    match flagItems true [] false (r.rest.drop 1) with
    | some (items, ')', rest) =>
      if items.isEmpty then none else some (.flagsOnly items, { r with rest := rest })
    | some (items, _, rest) => some (.body items, { r with rest := rest })
    | none => none
  else some (.body [], r)

def verboseAfter (items : List FlagItem) (verbose : Bool) : Bool :=
  ((items.find? (·.flag == .verbose)).map (·.on)).getD verbose

def decimalDigits : Nat → List Char → Reader → List Char × Reader
  | 0, acc, r => (acc.reverse, r)
  | fuel + 1, acc, r =>
    match r.head? with
    | some c => if c.isDigit then decimalDigits fuel (c :: acc) r.next else (acc.reverse, r)
    | none => (acc.reverse, r)

def dropBlanks : Nat → Reader → Reader
  | 0, r => r
  | fuel + 1, r =>
    match r.head? with
    | some c => if Text.isBlank c then dropBlanks fuel r.next else r
    | none => r

def decimal (r : Reader) : Option Nat × Reader :=
  let r := { r with rest := r.rest.dropWhile Text.isBlank }
  let (digits, r) := decimalDigits (r.rest.length + 1) [] r
  let r := dropBlanks (r.rest.length + 1) r
  let n : Nat := digits.foldl (fun n c => n * 10 + (c.toNat - 48)) 0
  (if digits.isEmpty || Nat.pow 2 32 ≤ n then none else some n, r)

def bounds (r : Reader) : Option (Nat × Option Nat × Reader) := do
  let r := r.next
  if r.rest.isEmpty then none
  let (least, r) := decimal r
  let (least, most, r) ←
    if r.head? = some ',' then do
      let r := r.next
      if r.rest.isEmpty then none
      let least ← least
      if r.head? = some '\x7d' then pure (least, none, r)
      else
        let (most, r) := decimal r
        pure (least, some (← most), r)
    else do
      let n ← least
      pure (n, some n, r)
  if r.head? ≠ some '\x7d' then none
  match most with
  | some m => if m < least then none else return (least, most, r)
  | none => return (least, none, r)

def lazyMark (r : Reader) : Reader := if r.head? = some '?' then r.drop 1 else r

def repeated (parts : List Tree) (least : Nat) (most : Option Nat) : Option (List Tree) :=
  match parts with
  | t :: rest => if t.repeatable then some (.repetition t least most :: rest) else none
  | [] => none

def alternatives : Nat → List Tree → List Tree → Reader → Option (Tree × Reader)
  | 0, _, _, _ => none
  | fuel + 1, branches, parts, r =>
    let r := r.skip
    let finish : Tree :=
      let last := Tree.ofParts parts.reverse
      if branches.isEmpty then last else .alternatives (branches.reverse ++ [last])
    match r.rest with
    | [] => some (finish, r)
    | ')' :: _ => some (finish, r)
    | '|' :: _ => alternatives fuel (Tree.ofParts parts.reverse :: branches) [] (r.drop 1)
    | '(' :: _ =>
      match groupStart r with
      | none => none
      | some (.flagsOnly items, r) =>
        alternatives fuel branches (.flags items :: parts) { r with verbose := verboseAfter items r.verbose }
      | some (.body items, inside) =>
        match alternatives fuel [] [] { inside with verbose := verboseAfter items inside.verbose } with
        | some (body, after) =>
          if after.head? = some ')' then
            alternatives fuel branches (.group items body :: parts)
              { after.drop 1 with verbose := r.verbose }
          else none
        | none => none
    | '[' :: _ =>
      let (negated, start, inside) := classStart r
      match classBody (r.rest.length + 1) none start inside with
      | some (body, r) => alternatives fuel branches (.brackets negated body :: parts) r
      | none => none
    | '?' :: _ =>
      (repeated parts 0 (some 1)).bind fun parts => alternatives fuel branches parts (r.drop 1).lazyMark
    | '*' :: _ =>
      (repeated parts 0 none).bind fun parts => alternatives fuel branches parts (r.drop 1).lazyMark
    | '+' :: _ =>
      (repeated parts 1 none).bind fun parts => alternatives fuel branches parts (r.drop 1).lazyMark
    | '\x7b' :: _ =>
      match bounds r with
      | some (least, most, after) =>
        (repeated parts least most).bind fun parts => alternatives fuel branches parts after.next.lazyMark
      | none => none
    | '\\' :: _ =>
      match escape r with
      | some (t, r) => alternatives fuel branches (t :: parts) r
      | none => none
    | '.' :: _ => alternatives fuel branches (.dot :: parts) (r.drop 1)
    | '^' :: _ => alternatives fuel branches (.assertion .lineStart :: parts) (r.drop 1)
    | '$' :: _ => alternatives fuel branches (.assertion .lineEnd :: parts) (r.drop 1)
    | c :: _ => alternatives fuel branches (.literal ⟨c, false⟩ :: parts) (r.drop 1)

end Reader

def Tree.ofString? (s : String) : Option Tree :=
  let cs := s.toList
  match Reader.alternatives (cs.length + 1) [] [] ⟨cs, false, []⟩ with
  | some (t, r) => if r.rest.isEmpty && t.depth ≤ maxNesting then some t else none
  | none => none

end StorePolicy.Pattern

import StorePolicy.Yaml.Cursor
import StorePolicy.Yaml.Token
import StorePolicy.Yaml.Token.Scalar

/-!
# Tags and directives

A tag is a handle and a suffix: `!x`, `!!x` and `!h!x` by their handles, `!<…>` with no
handle. Directives name the version of YAML and declare handles. Percent signs in tags
stand before the bytes of a character in base sixteen.
-/
namespace StorePolicy.Yaml

def isTagChar (whole : Bool) (c : Char) : Bool :=
  isNameChar c ||
    [';', '/', '?', ':', '@', '&', '=', '+', '$', '.', '!', '~', '*', '\'', '(', ')'].contains c ||
    (whole && [',', '[', ']'].contains c)

def percentByte? (c : Cursor) : Option Nat :=
  match c.rest with
  | '%' :: a :: b :: _ => hexValue? [a, b]
  | _ => none

def percentChar? (c : Cursor) : Option (Char × Cursor) := do
  let first ← percentByte? c
  let width :=
    if first < 0x80 then 1
    else if first / 0x20 = 6 then 2
    else if first / 0x10 = 14 then 3
    else if first / 8 = 30 then 4
    else 0
  if width = 0 then none
  let rest ← (List.range (width - 1)).mapM fun i => do
    let b ← percentByte? (c.skip (3 * (i + 1)))
    if b / 0x40 = 2 then return b % 0x40 else none
  let lead := if width = 1 then first else first % Nat.pow 2 (7 - width)
  return (Char.ofNat (rest.foldl (fun n b => n * 0x40 + b) lead), c.skip (3 * width))

def tagChars (whole : Bool) : Nat → Cursor → List Char → Option (List Char × Cursor)
  | 0, _, _ => none
  | fuel + 1, c, acc =>
    match c.rest with
    | '%' :: _ =>
      match percentChar? c with
      | some (ch, next) => tagChars whole fuel next (ch :: acc)
      | none => none
    | ch :: _ =>
      if isTagChar whole ch then tagChars whole fuel (c.skip 1) (ch :: acc)
      else some (acc.reverse, c)
    | [] => some (acc.reverse, c)

def readTagChars (whole : Bool) (c : Cursor) : Option (List Char × Cursor) :=
  tagChars whole (c.rest.length + 1) c []

/-- A handle such as `!`, `!!` or `!name!`. Outside of directives a name may also be the
beginning of a tag without handle. -/
def readHandle (directive : Bool) (c : Cursor) : Option (List Char × Cursor) := do
  if !c.is 0 '!' then none
  let (name, next) := (c.skip 1).takeRun isNameChar
  if next.is 0 '!' then return ('!' :: name ++ ['!'], next.skip 1)
  if directive && !name.isEmpty then none
  return ('!' :: name, next)

def textToken (handle suffix : List Char) : Token :=
  .tag (String.ofList handle) (String.ofList suffix)

def readTag (flow : Bool) (c : Cursor) : Option (Token × Cursor) := do
  let (token, next) ←
    if c.is 1 '<' then do
      let (suffix, next) ← readTagChars true (c.skip 2)
      if suffix.isEmpty || !next.is 0 '>' then none
      else pure (textToken [] suffix, next.skip 1)
    else do
      let (handle, next) ← readHandle false c
      if 2 ≤ handle.length && handle.getLast? == some '!' then
        let (suffix, next) ← readTagChars false next
        if suffix.isEmpty then none else pure (textToken handle suffix, next)
      else
        let (more, next) ← readTagChars false next
        let suffix := handle.drop 1 ++ more
        pure (if suffix.isEmpty then textToken [] ['!'] else textToken ['!'] suffix, next)
  if next.endsAt 0 || (flow && next.is 0 ',') then return (token, next) else none

def versionNumber (c : Cursor) : Option (Nat × Cursor) := do
  let (digits, next) := c.takeRun Char.isDigit
  if digits.isEmpty || 9 < digits.length then none
  else return (digits.foldl (fun n d => n * 10 + (d.toNat - 48)) 0, next)

def readDirective (c : Cursor) : Option (Token × Cursor) := do
  let (name, next) := (c.skip 1).takeRun isNameChar
  if name.isEmpty || !next.endsAt 0 then none
  let next := next.skipGaps
  let (token, next) ←
    if name = ['Y', 'A', 'M', 'L'] then do
      let (major, next) ← versionNumber next
      if !next.is 0 '.' then none
      let (minor, next) ← versionNumber (next.skip 1)
      pure (Token.version major minor, next)
    else if name = ['T', 'A', 'G'] then do
      let (handle, next) ← readHandle true next
      if !next.onGap then none
      let (start, next) ← readTagChars true next.skipGaps
      if start.isEmpty || !next.endsAt 0 then none
      pure (Token.tagDirective (String.ofList handle) (String.ofList start), next)
    else none
  let next := next.skipGaps.skipComment
  if next.onLineEnd then return (token, next.skipBreak) else none

def readAnchorName (c : Cursor) : Option (String × Cursor) := do
  let (name, next) := (c.skip 1).takeRun isNameChar
  if name.isEmpty then none
  else if next.endsAt 0 || next.oneOf 0 ['?', ':', ',', ']', '\x7d', '%', '@', '\x60'] then
    return (String.ofList name, next)
  else none

end StorePolicy.Yaml

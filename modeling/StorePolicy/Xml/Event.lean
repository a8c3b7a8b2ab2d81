import StorePolicy.Xml.Reference

/-!
# Events of an XML text

A text is read as a list of events: starts and ends of elements, texts, and everything
else. An end must bear the name of the element it closes. The place where the text goes
wrong is an event too, the last one. A tag whose attributes are faulty is still a tag.
-/
namespace StorePolicy.Xml

structure Tag where
  name : String
  /-- None if an attribute is faulty or repeated. -/
  attributes : Option (List (String × String))

inductive Event where
  | start (tag : Tag)
  | empty (tag : Tag)
  | finish
  /-- None if a reference in the text cannot be read. -/
  | text (s : Option String)
  | cdata (s : String)
  | other
  | broken

def isSpace (c : Char) : Bool := c = ' ' || c = '\n' || c = '\t' || c = '\r'

def endsKey (c : Char) : Bool := c = '=' || isSpace c

def readValue? (cs : List Char) : Option (List Char × List Char) :=
  match cs.dropWhile isSpace with
  | q :: rest =>
    if q = '"' || q = '\'' then
      match rest.dropWhile (· ≠ q) with
      | _ :: after => some (rest.takeWhile (· ≠ q), after)
      | [] => none
    else none
  | [] => none

def readKey? (cs : List Char) : Option (List Char × List Char) :=
  match cs with
  | [] => none
  | c :: rest =>
    let key := c :: rest.takeWhile (!endsKey ·)
    match (rest.dropWhile (!endsKey ·)).dropWhile isSpace with
    | '=' :: after => some (key, after)
    | _ => none

def readAttributes : Nat → List (List Char) → List Char → Option (List (String × String))
  | 0, _, _ => none
  | fuel + 1, seen, cs =>
    match cs.dropWhile isSpace with
    | [] => some []
    | cs => do
      let (key, rest) ← readKey? cs
      if seen.contains key then none
      let (value, rest) ← readValue? rest
      let value ← unescape? value
      let others ← readAttributes fuel (key :: seen) rest
      return (String.ofList key, String.ofList value) :: others

def Tag.ofContent (cs : List Char) : Tag :=
  ⟨String.ofList (cs.takeWhile (!isSpace ·)),
    readAttributes (cs.length + 1) [] (cs.dropWhile (!isSpace ·))⟩

def takeTag (quote : Option Char) (acc : List Char) : List Char → Option (List Char × List Char)
  | [] => none
  | c :: rest =>
    match quote with
    | none =>
      if c = '>' then some (acc.reverse, rest)
      else takeTag (if c = '"' || c = '\'' then some c else none) (c :: acc) rest
    | some q => takeTag (if c = q then none else some q) (c :: acc) rest

def takeUntil (tail : List Char) (least : Nat) (acc : List Char) :
    List Char → Option (List Char × List Char)
  | [] => none
  | c :: rest =>
    if c = '>' && least ≤ acc.length && tail.isPrefixOf acc then some (acc.reverse, rest)
    else takeUntil tail least (c :: acc) rest

def takeDeclaration (depth : Int) (acc : List Char) : List Char → Option (List Char × List Char)
  | [] => none
  | c :: rest =>
    if c = '>' then
      if depth = 0 then some (acc.reverse, rest) else takeDeclaration (depth - 1) (c :: acc) rest
    else takeDeclaration (if c = '<' then depth + 1 else depth) (c :: acc) rest

def readDeclaration (cs : List Char) : Option (Event × List Char) :=
  match cs with
  | '-' :: _ =>
    (takeUntil ['-', '-'] 4 [] cs).bind fun (body, rest) =>
      if ['-', '-'].isPrefixOf body then some (.other, rest) else none
  | '[' :: _ =>
    (takeUntil [']', ']'] 0 [] cs).bind fun (body, rest) =>
      match body with
      | '[' :: 'C' :: 'D' :: 'A' :: 'T' :: 'A' :: '[' :: data =>
        some (.cdata (String.ofList (data.take (data.length - 2))), rest)
      | _ => none
  | c :: _ =>
    if c = 'D' || c = 'd' then
      (takeDeclaration 0 [] cs).bind fun (body, rest) =>
        if (body.take 7).map Char.toUpper = ['D', 'O', 'C', 'T', 'Y', 'P', 'E'] &&
            (body.drop 7).any (!isSpace ·) then some (.other, rest)
        else none
    else none
  | [] => none

def readInstruction (cs : List Char) : Option (Event × List Char) :=
  (takeUntil ['?'] 0 [] cs).bind fun (body, rest) =>
    if 1 < body.length then some (.other, rest) else none

def dropSpaceRight (cs : List Char) : List Char := (cs.reverse.dropWhile isSpace).reverse

/-- The name in an end tag: without the blanks after it, unless it is blank altogether. -/
def endName (cs : List Char) : List Char := if cs.all isSpace then cs else dropSpaceRight cs

def readMarkup (names : List String) (cs : List Char) : Option (Event × List String × List Char) :=
  match cs with
  | [] => none
  | '!' :: rest => (readDeclaration rest).map fun (e, rest) => (e, names, rest)
  | '?' :: _ => (readInstruction cs).map fun (e, rest) => (e, names, rest)
  | '/' :: rest => do
    let (body, rest) ← takeTag none [] rest
    match names with
    | name :: names => if String.ofList (endName body) = name then return (.finish, names, rest) else none
    | [] => none
  | cs => do
    let (body, rest) ← takeTag none [] cs
    if body.getLast? = some '/' then return (.empty (.ofContent body.dropLast), names, rest)
    else
      let tag := Tag.ofContent body
      return (.start tag, tag.name :: names, rest)

def readEvents : Nat → List String → List Char → List Event
  | 0, _, _ => []
  | fuel + 1, names, cs =>
    let text := cs.takeWhile (· ≠ '<')
    let before : List Event :=
      if text.isEmpty then [] else [.text ((unescape? text).map String.ofList)]
    match cs.dropWhile (· ≠ '<') with
    | [] => before
    | _ :: rest =>
      match readMarkup names rest with
      | none => before ++ [.broken]
      | some (e, names, rest) => before ++ e :: readEvents fuel names rest

def events (s : String) : List Event :=
  let cs := match s.toList with
    | c :: rest => if c.toNat = 0xFEFF then rest else c :: rest
    | [] => []
  readEvents (cs.length + 1) [] cs

end StorePolicy.Xml

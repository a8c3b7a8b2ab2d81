import StorePolicy.Yaml.Node
import StorePolicy.Yaml.Token.Lexer

/-!
# The grammar of nodes

Tokens are read into the tree of one document. Where the text is broken, the tree ends; an
alias to an unknown anchor, an undeclared tag handle and a repeated directive break it, too.
A second document in the text leaves the first incomplete. An anchor gets its number where its
node begins: the number of names known until then.
-/
namespace StorePolicy.Yaml

structure Reading where
  tokens : List Token
  handles : List (String × String)
  names : List (String × Nat)
  /-- Nodes with anchors that have begun, by the number of each, the latest first. -/
  begun : List Nat
  finished : List (Nat × Node)

namespace Reading

def drop (r : Reading) (n : Nat) : Reading := { r with tokens := r.tokens.drop n }

def head (r : Reading) : Token := r.tokens.head?.getD .streamEnd

def nextIs (r : Reading) (ts : List Token) : Bool := ts.contains r.head

def resolveTag (r : Reading) (handle suffix : String) : Option String :=
  if handle = "" then some suffix else (r.handles.lookup handle).map (· ++ suffix)

def anchorNumber (r : Reading) (name : String) : Option Nat := r.names.lookup name

def name (r : Reading) (anchor : Option String) : Reading :=
  match anchor with
  | none => r
  | some a =>
    { r with
      names := (a, r.names.length) :: r.names.filter (·.1 ≠ a)
      begun := r.names.length :: r.begun }

def properties (r : Reading) : Option (Option String × Option String × Reading) := do
  match r.tokens with
  | .anchor a :: .tag h s :: rest => return (some a, some (← r.resolveTag h s), { r with tokens := rest })
  | .anchor a :: rest => return (some a, none, { r with tokens := rest })
  | .tag h s :: .anchor a :: rest => return (some a, some (← r.resolveTag h s), { r with tokens := rest })
  | .tag h s :: rest => return (none, some (← r.resolveTag h s), { r with tokens := rest })
  | _ => return (none, none, r)

/-- Keeps a finished node under the place of its anchor, counted from the first. -/
def finish (r : Reading) (anchor : Option String) (place : Nat) (n : Node) : Reading :=
  match anchor with
  | none => r
  | some _ => { r with finished := (place, n) :: r.finished }

end Reading

/-- The tag that a scalar keeps: the bare `!` says nothing. -/
def scalarTag (tag : Option String) : Option String := if tag = some "!" then none else tag

structure Progress (α : Type) where
  result : α
  reading : Reading
  broken : Bool

namespace Progress

variable {α β : Type}

def on (a : α) (r : Reading) : Progress α := ⟨a, r, false⟩

def stop (a : α) (r : Reading) : Progress α := ⟨a, r, true⟩

def map (f : α → β) (p : Progress α) : Progress β := ⟨f p.result, p.reading, p.broken⟩

def brokenEntry : Node × Node := (.broken, .broken)

def andMore (last : α) (p : Progress α) (more : Reading → Progress (List α)) : Progress (List α) :=
  if p.broken then .stop [p.result, last] p.reading else (more p.reading).map (p.result :: ·)

def andValue (p : Progress Node) (value : Reading → Progress Node) : Progress (Node × Node) :=
  if p.broken then .stop (p.result, .broken) p.reading
  else (value p.reading).map fun v => (p.result, v)

def single (p : Progress (Node × Node)) : Progress Node :=
  p.map fun e => .map none (if p.broken then [e, brokenEntry] else [e])

def vacant (r : Reading) : Progress Node := if r.head = .broken then .stop .broken r else .on .empty r

def finish (anchor : Option String) (place : Nat) (p : Progress Node) : Progress Node :=
  { p with reading := p.reading.finish anchor place p.result }

end Progress

open Progress

mutual
/-- A node; `block` admits block collections, and `open_` a sequence at the indentation of
the key before it. -/
def readNode (block open_ : Bool) : Nat → Reading → Progress Node
  | 0, r => .stop .broken r
  | fuel + 1, r =>
    match r.tokens with
    | .alias a :: _ =>
      match r.anchorNumber a with
      | some id => .on (.alias id) (r.drop 1)
      | none => .stop .broken r
    | _ =>
      match r.properties with
      | none => .stop .broken r
      | some (anchor, tag, r) =>
        let r := r.name anchor
        let done (p : Progress Node) : Progress Node := p.finish anchor r.begun.length
        let bare : Progress Node :=
          if r.head ≠ .broken && (anchor.isSome || tag.isSome) then
            done (.on (.scalar (scalarTag tag) .plain "") r)
          else .stop .broken r
        match r.head with
        | .scalar style text => done (.on (.scalar (scalarTag tag) style text) (r.drop 1))
        | .flowSequence => done ((readFlowItems true fuel (r.drop 1)).map (.seq tag))
        | .flowMapping => done ((readFlowEntries true fuel (r.drop 1)).map (.map tag))
        | .blockSequence =>
          if block then done ((readItems fuel (r.drop 1)).map (.seq tag)) else .stop .broken r
        | .blockMapping =>
          if block then done ((readEntries fuel (r.drop 1)).map (.map tag)) else .stop .broken r
        | .blockEntry => if open_ then done ((readOpenItems fuel r).map (.seq tag)) else bare
        | _ => bare

def readNodeUnless (stops : List Token) (block open_ : Bool) : Nat → Reading → Progress Node
  | 0, r => .stop .broken r
  | fuel + 1, r => if r.nextIs stops then .on .empty r else readNode block open_ fuel r

def readItems : Nat → Reading → Progress (List Node)
  | 0, r => .stop [.broken] r
  | fuel + 1, r =>
    match r.head with
    | .blockEntry =>
      (readNodeUnless [.blockEntry, .blockEnd] true false fuel (r.drop 1)).andMore .broken
        (readItems fuel)
    | .blockEnd => .on [] (r.drop 1)
    | _ => .stop [.broken] r

def readOpenItems : Nat → Reading → Progress (List Node)
  | 0, r => .stop [.broken] r
  | fuel + 1, r =>
    match r.head with
    | .blockEntry =>
      (readNodeUnless [.blockEntry, .key, .value, .blockEnd] true false fuel (r.drop 1)).andMore
        .broken (readOpenItems fuel)
    | .broken => .stop [.broken] r
    | _ => .on [] r

def readEntries : Nat → Reading → Progress (List (Node × Node))
  | 0, r => .stop [brokenEntry] r
  | fuel + 1, r =>
    match r.head with
    | .key =>
      let key := readNodeUnless [.key, .value, .blockEnd] true true fuel (r.drop 1)
      (key.andValue (readEntryValue [.key, .value, .blockEnd] true fuel)).andMore brokenEntry
        (readEntries fuel)
    | .blockEnd => .on [] (r.drop 1)
    | _ => .stop [brokenEntry] r

def readEntryValue (stops : List Token) (block : Bool) : Nat → Reading → Progress Node
  | 0, r => .stop .broken r
  | fuel + 1, r =>
    if r.head = .value then readNodeUnless stops block block fuel (r.drop 1) else vacant r

def readFlowItems (first : Bool) : Nat → Reading → Progress (List Node)
  | 0, r => .stop [.broken] r
  | fuel + 1, r =>
    if r.head = .flowSequenceEnd then .on [] (r.drop 1)
    else if !first && r.head ≠ .flowEntry then .stop [.broken] r
    else
      let r := if first then r else r.drop 1
      match r.head with
      | .flowSequenceEnd => .on [] (r.drop 1)
      | .key => (readPair fuel (r.drop 1)).single.andMore .broken (readFlowItems false fuel)
      | _ => (readNode false false fuel r).andMore .broken (readFlowItems false fuel)

/-- A single pair among the items of a sequence. A pair without key gives up the token in
the key's place. -/
def readPair : Nat → Reading → Progress (Node × Node)
  | 0, r => .stop brokenEntry r
  | fuel + 1, r =>
    let key : Progress Node :=
      if r.nextIs [.value, .flowEntry, .flowSequenceEnd] then .on .empty (r.drop 1)
      else readNode false false fuel r
    key.andValue (readEntryValue [.flowEntry, .flowSequenceEnd] false fuel)

def readFlowEntries (first : Bool) : Nat → Reading → Progress (List (Node × Node))
  | 0, r => .stop [brokenEntry] r
  | fuel + 1, r =>
    if r.head = .flowMappingEnd then .on [] (r.drop 1)
    else if !first && r.head ≠ .flowEntry then .stop [brokenEntry] r
    else
      let r := if first then r else r.drop 1
      match r.head with
      | .flowMappingEnd => .on [] (r.drop 1)
      | .key =>
        let key := readNodeUnless [.value, .flowEntry, .flowMappingEnd] false false fuel (r.drop 1)
        (key.andValue (readEntryValue [.flowEntry, .flowMappingEnd] false fuel)).andMore brokenEntry
          (readFlowEntries false fuel)
      | _ =>
        ((readNode false false fuel r).andValue vacant).andMore brokenEntry
          (readFlowEntries false fuel)
end

def readDirectives (versioned : Bool) (handles : List (String × String)) :
    List Token → Option (List (String × String) × List Token)
  | .version major minor :: rest =>
    if versioned || major ≠ 1 || (minor ≠ 1 && minor ≠ 2) then none
    else readDirectives true handles rest
  | .tagDirective h s :: rest =>
    if (handles.lookup h).isSome then none else readDirectives versioned ((h, s) :: handles) rest
  | rest =>
    let known (h : String) : Bool := (handles.lookup h).isSome
    let defaults := [("!", "!"), ("!!", "tag:yaml.org,2002:")].filter fun d => !known d.1
    some (defaults ++ handles, rest)

def startsDocument : Token → Bool
  | .version _ _ => true
  | .tagDirective _ _ => true
  | .documentStart => true
  | _ => false

/-- The place of the node that the anchor number `id` stands for: the last one that began
under it. -/
def lastPlace (begun : List Nat) (id : Nat) : Nat :=
  begun.length - (begun.takeWhile (· ≠ id)).length

def Document.ofReading (root : Node) (complete : Bool) (r : Reading) : Document :=
  let anchored := r.begun.eraseDups.filterMap fun id =>
    (r.finished.lookup (lastPlace r.begun id)).map fun n => (id, n)
  ⟨root, anchored, root.weight, complete⟩

def Document.broken : Document := ⟨.broken, [], 1, false⟩

def endsText (r : Reading) : Bool := r.tokens.dropWhile (· = .documentEnd) = [.streamEnd]

def Document.ofTokens (ts : List Token) : Document :=
  if ts = [.streamEnd] then ⟨.absent, [], 1, true⟩
  else
    match readDirectives false [] ts with
    | none => .broken
    | some (handles, rest) =>
      let marked := startsDocument (ts.head?.getD .streamEnd)
      if marked && rest.head? ≠ some .documentStart then .broken
      else
        let r : Reading := ⟨if marked then rest.drop 1 else rest, handles, [], [], []⟩
        let bare := marked && (startsDocument r.head || r.nextIs [.documentEnd, .streamEnd])
        let root := if bare then .on .empty r else readNode true false (2 * ts.length + 4) r
        .ofReading root.result (!root.broken && endsText root.reading) root.reading

/-- The document of a text. What is broken in the text stands in the document as a node. -/
def Document.ofString (s : String) : Document := .ofTokens (tokensOf s)

end StorePolicy.Yaml

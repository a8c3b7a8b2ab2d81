import StorePolicy.Candidate.Strict
import StorePolicy.Files.Tree
import StorePolicy.Trace
import StorePolicy.Yaml.Reader

/-!
# Merging candidates

Candidates are merged into a rule-set document by their ids, without surrounding blanks: one
whose id is there replaces every entry with that id where it stands, and any other is added
at the end. A candidate without an id or that is not accepted is reported and left out. The
document is changed as a tree, so its other keys stay as they are.
-/
namespace StorePolicy

structure Rejection where
  index : Nat
  id : Option String
  reason : String
deriving DecidableEq

structure MergeReport where
  added : List String
  updated : List String
  rejected : List Rejection
  backup : Option String
  total : Nat
deriving DecidableEq

def MergeReport.accepted (r : MergeReport) : Nat := r.added.length + r.updated.length

/-- What a candidate must satisfy: the strict schema, or only to read as a valid rule. -/
inductive Acceptance where
  | strict (s : Check.Settings)
  | lenient (maxDepth : Nat)

namespace Acceptance

def check (a : Acceptance) (candidate : Value) : Except String Unit :=
  match a with
  | .strict s =>
    match PolicyRule.parse s candidate with
    | .ok _ => .ok ()
    | .error f => .error f.message
  | .lenient maxDepth =>
    match Rule.read YamlValue.dialect candidate with
    | .error f => .error (f.message .yaml)
    | .ok r => (r.validate maxDepth).mapError SchemaFault.message

end Acceptance

namespace Merge

inductive Fault where
  | io (path : String) (f : Files.Fault)
  | yaml
  | json
  | malformed (what message : String)

def Fault.message : Fault → String
  | .io path f => "IO error on " ++ path ++ ": " ++ f.message
  | .yaml => "YAML error: not well-formed"
  | .json => "JSON error: not well-formed"
  | .malformed what message => "Malformed " ++ what ++ ": " ++ message

def badBatch (message : String) : Fault := .malformed "candidate batch" message

def candidatesOf : Value → Except Fault (List Value)
  | .seq items => .ok items
  | .map entries =>
    match lookupKey "rules" entries with
    | some (.seq items) => .ok items
    | some _ => .error (badBatch "'rules' must be a list")
    | none => .error (badBatch "expected a list of rules or a mapping with a 'rules' list")
  | _ => .error (badBatch "expected a list of rules or a mapping with a 'rules' list")

def parseCandidates (text : String) : Except Fault (List Value) :=
  match Yaml.parse? text with
  | some v => candidatesOf v
  | none => .error .yaml

def emptyDocument : Value :=
  .map [(.str "version", .str "1.0"), (.str "last_updated", .str ""), (.str "rules", .seq [])]

def idOf? (v : Value) : Option String :=
  ((v.get? "id").bind Value.asText?).bind fun s =>
    if Text.blank s then none else some (Text.trimmed s)

structure Progress where
  rules : List Value
  added : List String
  updated : List String
  rejected : List Rejection

namespace Progress

def start (rules : List Value) : Progress := ⟨rules, [], [], []⟩

def holdsId (id : String) (v : Value) : Bool := idOf? v == some id

def reject (p : Progress) (r : Rejection) : Progress := { p with rejected := p.rejected ++ [r] }

def replace (p : Progress) (id : String) (candidate : Value) : Progress :=
  { p with
    rules := p.rules.map fun v => if holdsId id v then candidate else v
    updated := if p.updated.contains id || p.added.contains id then p.updated else p.updated ++ [id] }

def append (p : Progress) (id : String) (candidate : Value) : Progress :=
  { p with rules := p.rules ++ [candidate], added := p.added ++ [id] }

def accept (p : Progress) (id : String) (candidate : Value) : Progress :=
  if p.rules.any (holdsId id) then p.replace id candidate else p.append id candidate

def acceptLog (p : Progress) (id : String) : String :=
  if p.rules.any (holdsId id) then "Updated existing rule: " ++ id else "Added new rule: " ++ id

def step (a : Acceptance) (p : Progress) (index : Nat) (candidate : Value) : Traced Progress :=
  match idOf? candidate with
  | none => do
    Traced.log .warn ("Skipping candidate #" ++ toString (index + 1) ++ " without an id")
    pure (p.reject ⟨index, none, "missing id"⟩)
  | some id =>
    match a.check candidate with
    | .error reason => do
      Traced.log .warn ("Rejected candidate " ++ id ++ ": " ++ reason)
      pure (p.reject ⟨index, some id, reason⟩)
    | .ok () => do
      Traced.log .info (p.acceptLog id)
      pure (p.accept id candidate)

def run (a : Acceptance) : Nat → Progress → List Value → Traced Progress
  | _, p, [] => pure p
  | index, p, c :: rest => do run a (index + 1) (← p.step a index c) rest

def report (p : Progress) : MergeReport := ⟨p.added, p.updated, p.rejected, none, p.rules.length⟩

end Progress

def setKey (key : String) (value : Value) : List (Value × Value) → List (Value × Value)
  | [] => [(.str key, value)]
  | (.str k, v) :: rest =>
    if k = key then (.str k, value) :: rest else (.str k, v) :: setKey key value rest
  | e :: rest => e :: setKey key value rest

def withEntries (entries : List (Value × Value)) : Value → Value
  | .tagged t v => .tagged t (withEntries entries v)
  | _ => .map entries

def withItems (items : List Value) : Value → Value
  | .tagged t v => .tagged t (withItems items v)
  | _ => .seq items

structure Target where
  document : Value
  entries : List (Value × Value)
  ruleList : Value
  rules : List Value

def rulesKey : String := "rules"

def badRuleSet (message : String) : Fault := .malformed "rule-set" message

def ensureRules (entries : List (Value × Value)) : List (Value × Value) :=
  if ((lookupKey rulesKey entries).map Value.isNull).getD true then setKey rulesKey (.seq []) entries
  else entries

/-- An empty document becomes the empty rule-set, and rules that are missing an empty list. -/
def target (document : Value) : Except Fault Target :=
  let document := if document.isNull then emptyDocument else document
  match document.entries? with
  | none => .error (badRuleSet "top level must be a mapping")
  | some entries =>
    let entries := ensureRules entries
    match lookupKey rulesKey entries with
    | some list =>
      match list.items? with
      | some rules => .ok ⟨document, entries, list, rules⟩
      | none => .error (badRuleSet "'rules' must be a list")
    | none => .error (badRuleSet "'rules' must be a list")

def Target.finish (t : Target) (p : Progress) (today : String) : Value :=
  let entries := setKey rulesKey (withItems p.rules t.ruleList) t.entries
  withEntries
    (if 0 < p.report.accepted then setKey "last_updated" (.str today) entries else entries)
    t.document

def candidates (a : Acceptance) (today : String) (document : Value) (batch : List Value) :
    Traced (Except Fault (Value × MergeReport)) :=
  match target document with
  | .error f => pure (.error f)
  | .ok t => do
    let p ← Progress.run a 0 (.start t.rules) batch
    pure (.ok (t.finish p today, p.report))

end Merge
end StorePolicy

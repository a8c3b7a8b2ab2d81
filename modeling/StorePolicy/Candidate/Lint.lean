import StorePolicy.Platform
import StorePolicy.Text.Blank
import StorePolicy.Yaml.Printer

/-!
# Advice on candidates

A raw candidate is looked over without being read as a rule: fields that are missing,
an id without a low line, a severity or platform that does not exist, conditions that are
no list.
-/
namespace StorePolicy.Candidate

def shown : Value → String
  | .str s => s
  | v => String.ofList (Text.trimRight (Yaml.print v).toList)

def requiredFields : List String := ["id", "title", "description", "conditions"]

def hasTextIn (known : List String) (v : Value) : Bool :=
  match v.asText? with
  | some s => known.contains s
  | none => false

def missing (entries : List (Value × Value)) : List String :=
  (requiredFields.filter fun f => (lookupKey f entries).isNone).map fun f =>
    "Missing required field: " ++ f

def isSplitId (v : Value) : Bool := ((v.asText?).map fun s => s.toList.contains '_').getD false

def idAdvice (v : Value) : List String :=
  if isSplitId v then []
  else ["Invalid ID format: " ++ shown v ++ ". Expected: PLATFORM_CATEGORY_XXX"]

def severityAdvice (v : Value) : List String :=
  if hasTextIn (Severity.all.map Severity.name) v then []
  else ["Invalid severity: " ++ shown v ++ ". Must be one of critical, major, minor, info"]

def platformAdvice (v : Value) : List String :=
  if hasTextIn (Platform.all.map Platform.name) v then []
  else ["Invalid platform: " ++ shown v ++ ". Must be one of ios, android, both"]

def conditionsAdvice (v : Value) : List String :=
  if v.items?.isSome then [] else ["conditions must be a list"]

def onField (entries : List (Value × Value)) (key : String) (advice : Value → List String) :
    List String :=
  ((lookupKey key entries).map advice).getD []

def lint (candidate : Value) : List String :=
  match candidate.entries? with
  | none => ["Rule must be a mapping"]
  | some entries =>
    missing entries ++ onField entries "id" idAdvice ++
      onField entries "severity" severityAdvice ++ onField entries "platform" platformAdvice ++
      onField entries "conditions" conditionsAdvice

end StorePolicy.Candidate

import StorePolicy.Condition
import StorePolicy.Decode.Content

/-!
# Written forms of conditions

A condition is written as a record with its type first. A composite is written with its
logic, and may also be read under the name of its logic as its type. Reading first
collects the content of the whole record, since its type may stand anywhere in it; so a
condition is read from content, and other forms of document only at the top.
-/
namespace StorePolicy.Condition

mutual
def toJson : Condition → Json
  | .fileExists t => .obj [("type", .str "file_exists"), ("target", .str t)]
  | .fileNotExists t => .obj [("type", .str "file_not_exists"), ("target", .str t)]
  | .jsonPathExists t p =>
    .obj [("type", .str "json_path_exists"), ("target", .str t), ("path", .str p)]
  | .jsonPathEquals t p v =>
    .obj [("type", .str "json_path_equals"), ("target", .str t), ("path", .str p), ("value", v)]
  | .jsonPathMatches t p r =>
    .obj [("type", .str "json_path_matches"), ("target", .str t), ("path", .str p), ("pattern", .str r)]
  | .yamlPathExists t p =>
    .obj [("type", .str "yaml_path_exists"), ("target", .str t), ("path", .str p)]
  | .xmlPathExists t p =>
    .obj [("type", .str "xml_xpath_exists"), ("target", .str t), ("xpath", .str p)]
  | .patternInFile t r =>
    .obj [("type", .str "regex_in_file"), ("target", .str t), ("pattern", .str r)]
  | .composite l checks =>
    .obj [("type", .str "composite"), ("logic", .str l.name), ("checks", .arr (toJsons checks))]

def toJsons : List Condition → List Json
  | [] => []
  | c :: rest => toJson c :: toJsons rest
end

def kinds : List String :=
  ["file_exists", "file_not_exists", "json_path_exists", "json_path_equals", "json_path_matches",
    "yaml_path_exists", "xml_xpath_exists", "regex_in_file", "composite", "all_of", "any_of", "none_of"]

structure Draft where
  target : Option String
  path : Option String
  value : Option Json
  pattern : Option String
  xpath : Option String
  logic : Option Logic
  checks : Option (List Condition)

namespace Draft

def empty : Draft := ⟨none, none, none, none, none, none, none⟩

def targetText (d : Draft) : String := d.target.getD ""
def pathText (d : Draft) : String := d.path.getD ""
def patternText (d : Draft) : String := d.pattern.getD ""
def checkList (d : Draft) : List Condition := d.checks.getD []

end Draft

/-- A part of a record together with its reading as a list of conditions. -/
structure Part where
  value : Value
  checks : Read (List Condition)

def logicOf (v : Value) : Read Logic :=
  (Content.choice (Logic.all.map Logic.name) v).map fun s => (Logic.ofName? s).getD .allOf

def targetField : Field Part Draft :=
  .of "target" true (·.target) (fun d s => { d with target := some s }) fun p => Content.text p.value

def pathField : Field Part Draft :=
  .of "path" true (·.path) (fun d s => { d with path := some s }) fun p => Content.text p.value

def valueField : Field Part Draft :=
  .of "value" true (·.value) (fun d j => { d with value := some j }) fun p => Content.json p.value

def patternField : Field Part Draft :=
  .of "pattern" true (·.pattern) (fun d s => { d with pattern := some s }) fun p => Content.text p.value

def xpathField : Field Part Draft :=
  .of "xpath" true (·.xpath) (fun d s => { d with xpath := some s }) fun p => Content.text p.value

def logicField : Field Part Draft :=
  .of "logic" true (·.logic) (fun d l => { d with logic := some l }) fun p => logicOf p.value

def checksField : Field Part Draft :=
  .of "checks" false (·.checks) (fun d cs => { d with checks := some cs }) (·.checks)

def schemaOf (variant : String) (fields : List (Field Part Draft)) (build : Draft → Condition) :
    Schema Part Draft Condition :=
  ⟨"struct variant RawCondition::" ++ variant, fields, .empty, build⟩

def schema (kind : String) : Schema Part Draft Condition :=
  match kind with
  | "file_exists" => schemaOf "FileExists" [targetField] fun d => .fileExists d.targetText
  | "file_not_exists" => schemaOf "FileNotExists" [targetField] fun d => .fileNotExists d.targetText
  | "json_path_exists" =>
    schemaOf "JsonPathExists" [targetField, pathField] fun d => .jsonPathExists d.targetText d.pathText
  | "json_path_equals" =>
    schemaOf "JsonPathEquals" [targetField, pathField, valueField] fun d =>
      .jsonPathEquals d.targetText d.pathText (d.value.getD .null)
  | "json_path_matches" =>
    schemaOf "JsonPathMatches" [targetField, pathField, patternField] fun d =>
      .jsonPathMatches d.targetText d.pathText d.patternText
  | "yaml_path_exists" =>
    schemaOf "YamlPathExists" [targetField, pathField] fun d => .yamlPathExists d.targetText d.pathText
  | "xml_xpath_exists" =>
    schemaOf "XmlXpathExists" [targetField, xpathField] fun d =>
      .xmlPathExists d.targetText (d.xpath.getD "")
  | "regex_in_file" =>
    schemaOf "RegexInFile" [targetField, patternField] fun d => .patternInFile d.targetText d.patternText
  | "composite" =>
    schemaOf "Composite" [logicField, checksField] fun d => .composite (d.logic.getD .allOf) d.checkList
  | "all_of" => schemaOf "AllOf" [checksField] fun d => .composite .allOf d.checkList
  | "any_of" => schemaOf "AnyOf" [checksField] fun d => .composite .anyOf d.checkList
  | _ => schemaOf "NoneOf" [checksField] fun d => .composite .noneOf d.checkList

/-- Records inside of content: unknown fields do no harm and failures have no place. -/
def partDialect : Dialect Part where
  wording := .json
  located := false
  text := fun p => Content.text p.value
  flag := fun p => Content.flag p.value
  count := fun p => Content.count p.value
  optional := fun p => pure (some p)
  items := fun _ => pure []
  record := fun _ _ => pure (.named [])
  choice := fun known p => Content.choice known p.value
  parts := fun _ => pure (.items [])
  step := fun _ => .unknown
  label := fun expected p => Content.label expected p.value
  content := fun p => pure p.value
  skip := fun _ => pure ()
  surplus := fun total n => .badLength total (Schema.elements n ++ " in sequence")

def labelled (es : List (Value × Part)) : List (Entry Part) :=
  es.map fun e => ⟨Content.label "field identifier" e.1, .unknown, e.2⟩

def expectedForm : String := "internally tagged enum RawCondition"

def splitKind : Option String → List (Value × Part) → List (Value × Part) →
    Read (String × List (Value × Part))
  | none, _, [] => fail (.missingField "type")
  | some kind, rest, [] => pure (kind, rest.reverse)
  | kind, rest, (.str "type", p) :: es => do
    if kind.isSome then fail (.duplicateField "type")
    splitKind (some (← Content.variant kinds p.value)) rest es
  | kind, rest, e :: es => splitKind kind (e :: rest) es

def ofEntries (es : List (Value × Part)) : Read Condition := do
  let (kind, rest) ← splitKind none [] es
  (schema kind).readNamed partDialect (labelled rest)

def ofItems : List Part → Read Condition
  | [] => fail (.missingField "type")
  | p :: rest => do
    let kind ← Content.variant kinds p.value
    (schema kind).readListed partDialect rest

mutual
def ofContent : Value → Read Condition
  | .map es => ofEntries (entryParts es)
  | .seq vs => ofItems (itemParts vs)
  | .null => Content.mismatch .null expectedForm
  | .bool b => Content.mismatch (.bool b) expectedForm
  | .int i => Content.mismatch (.int i) expectedForm
  | .float d => Content.mismatch (.float d) expectedForm
  | .str s => Content.mismatch (.str s) expectedForm
  | .tagged _ _ => fail .taggedContent

def checksOf : Value → Read (List Condition)
  | .seq vs => ofContents vs
  | .map es => Content.mismatch (.map es) "a sequence"
  | .null => Content.mismatch .null "a sequence"
  | .bool b => Content.mismatch (.bool b) "a sequence"
  | .int i => Content.mismatch (.int i) "a sequence"
  | .float d => Content.mismatch (.float d) "a sequence"
  | .str s => Content.mismatch (.str s) "a sequence"
  | .tagged _ _ => fail .taggedContent

def ofContents : List Value → Read (List Condition)
  | [] => pure []
  | v :: rest => do
    let c ← ofContent v
    return c :: (← ofContents rest)

def entryParts : List (Value × Value) → List (Value × Part)
  | [] => []
  | (k, v) :: rest => (k, ⟨v, checksOf v⟩) :: entryParts rest

def itemParts : List Value → List Part
  | [] => []
  | v :: rest => ⟨v, checksOf v⟩ :: itemParts rest
end

variable {ν : Type}

def collect (d : Dialect ν) : Option String → List (Value × Value) → List (ν × ν) →
    Read (String × List (Value × Value))
  | none, _, [] => d.refuse (.missingField "type")
  | some kind, rest, [] => pure (kind, rest.reverse)
  | kind, rest, (k, v) :: es => do
    match ← d.content k with
    | .str "type" =>
      if kind.isSome then d.refuse (.duplicateField "type")
      else collect d (some (← d.within (d.step k) (d.variant kinds v))) rest es
    | key =>
      let value ← d.within (d.step k) (d.content v)
      collect d kind ((key, value) :: rest) es

def read (d : Dialect ν) (v : ν) : Read Condition := do
  match ← d.parts v with
  | .entries es =>
    let (kind, rest) ← collect d none [] es
    (schema kind).readNamed partDialect (labelled (entryParts rest))
  | .items [] => d.refuse (.missingField "type")
  | .items (k :: rest) =>
    let kind ← d.within (.item 0) (d.variant kinds k)
    let contents ← rest.zipIdx.mapM fun (v, i) => d.within (.item (i + 1)) (d.content v)
    (schema kind).readListed partDialect (itemParts contents)
  | .other f => d.refuse (.mismatch f expectedForm)

end StorePolicy.Condition

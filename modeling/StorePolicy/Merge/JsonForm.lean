import StorePolicy.Json.Printer

/-!
# Documents as JSON

The keys of mappings must be texts, booleans or numbers, and are written as texts. A tag
becomes a mapping with one entry. Doubles that are not finite become null.
-/
namespace StorePolicy.Merge

def keyText? : Value → Option String
  | .str s => some s
  | .bool b => some (if b then "true" else "false")
  | .int i => some (toString i)
  | .float d => if d.isFinite then some (Json.floatText d) else none
  | _ => none

mutual
def toJson? : Value → Option Json
  | .null => some .null
  | .bool b => some (.bool b)
  | .int i => some (.int i)
  | .float d => some (if d.isFinite then .float d else .null)
  | .str s => some (.str s)
  | .seq items => (toJsons? items).map .arr
  | .map entries => (toMembers? entries).map .obj
  | .tagged t v => (toJson? v).map fun j => .obj [("!" ++ t, j)]

def toJsons? : List Value → Option (List Json)
  | [] => some []
  | v :: rest =>
    match toJson? v, toJsons? rest with
    | some j, some js => some (j :: js)
    | _, _ => none

def toMembers? : List (Value × Value) → Option (List (String × Json))
  | [] => some []
  | (k, v) :: rest =>
    match keyText? k, toJson? v, toMembers? rest with
    | some k, some j, some ms => some ((k, j) :: ms)
    | _, _, _ => none
end

mutual
def distinctKeys : Value → Bool
  | .seq items => distinctItems items
  | .map entries => distinctEntries entries
  | .tagged _ v => distinctKeys v
  | .null => true
  | .bool _ => true
  | .int _ => true
  | .float _ => true
  | .str _ => true

def distinctItems : List Value → Bool
  | [] => true
  | v :: rest => distinctKeys v && distinctItems rest

def distinctEntries : List (Value × Value) → Bool
  | [] => true
  | (k, v) :: rest => !rest.any (fun e => e.1.same k) && distinctKeys v && distinctEntries rest
end

end StorePolicy.Merge

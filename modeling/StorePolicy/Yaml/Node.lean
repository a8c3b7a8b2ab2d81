import StorePolicy.Yaml.Token

/-!
# Nodes of a YAML document

The tree of a document before its scalars are told apart. An alias stands for a node
with an anchor, which is found by number in the document.
-/
namespace StorePolicy.Yaml

inductive Node where
  | scalar (tag : Option String) (style : ScalarStyle) (text : String)
  | seq (tag : Option String) (items : List Node)
  | map (tag : Option String) (entries : List (Node × Node))
  | alias (id : Nat)
  /-- The root of a text without a document. -/
  | absent
  /-- What cannot be read, since the text is broken; it ends the collections around it. -/
  | broken
deriving Inhabited

structure Document where
  root : Node
  anchored : List (Nat × Node)
  /-- Number of scalars, aliases, and starts and ends of collections. -/
  weight : Nat
  complete : Bool

namespace Node

def empty : Node := .scalar none .plain ""

mutual
def weight : Node → Nat
  | .seq _ items => 2 + itemsWeight items
  | .map _ entries => 2 + entriesWeight entries
  | .scalar _ _ _ => 1
  | .alias _ => 1
  | .absent => 1
  | .broken => 1

def itemsWeight : List Node → Nat
  | [] => 0
  | n :: rest => weight n + itemsWeight rest

def entriesWeight : List (Node × Node) → Nat
  | [] => 0
  | (k, v) :: rest => weight k + weight v + entriesWeight rest
end

end Node

namespace Document

def node? (d : Document) (id : Nat) : Option Node := d.anchored.lookup id

end Document
end StorePolicy.Yaml

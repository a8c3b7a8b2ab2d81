/-!
# Trees of patterns

What the text of a pattern says, before flags are applied: characters, classes,
assertions, repetitions, groups and alternatives. Groups and classes may be nested to a
limit.
-/
namespace StorePolicy.Pattern

inductive Flag where
  | ignoreCase
  | multiLine
  | dotAll
  | swapGreed
  | unicode
  | crlf
  | verbose
deriving DecidableEq

structure FlagItem where
  flag : Flag
  on : Bool
deriving DecidableEq

inductive Assertion where
  | lineStart
  | lineEnd
  | textStart
  | textEnd
  | wordBoundary
  | notWordBoundary
  | wordStart
  | wordEnd
  | wordStartHalf
  | wordEndHalf
deriving DecidableEq

inductive ShortClass where
  | digit
  | space
  | word
deriving DecidableEq

inductive SetOperation where
  | intersection
  | difference
  | symmetric
deriving DecidableEq

structure Literal where
  char : Char
  byte : Bool
deriving DecidableEq, Inhabited

inductive ClassTree where
  | literal (c : Literal)
  | range (first last : Literal)
  | short (kind : ShortClass) (negated : Bool)
  | named (name : String) (negated : Bool)
  | property (name : String) (negated : Bool)
  | union (items : List ClassTree)
  | operation (op : SetOperation) (left right : ClassTree)
  | brackets (negated : Bool) (body : ClassTree)
deriving Inhabited

inductive Tree where
  | empty
  | flags (items : List FlagItem)
  | literal (c : Literal)
  | dot
  | assertion (kind : Assertion)
  | short (kind : ShortClass) (negated : Bool)
  | property (name : String) (negated : Bool)
  | brackets (negated : Bool) (body : ClassTree)
  | repetition (body : Tree) (least : Nat) (most : Option Nat)
  | group (flags : List FlagItem) (body : Tree)
  | concat (parts : List Tree)
  | alternatives (branches : List Tree)
deriving Inhabited

mutual
def ClassTree.depth : ClassTree → Nat
  | .union items => 1 + ClassTree.depths items
  | .operation _ l r => 1 + max (ClassTree.depth l) (ClassTree.depth r)
  | .brackets _ body => 1 + ClassTree.depth body
  | .literal _ => 0
  | .range _ _ => 0
  | .short _ _ => 0
  | .named _ _ => 0
  | .property _ _ => 0

def ClassTree.depths : List ClassTree → Nat
  | [] => 0
  | t :: rest => max (ClassTree.depth t) (ClassTree.depths rest)
end

mutual
def Tree.depth : Tree → Nat
  | .brackets _ body => 1 + body.depth
  | .repetition body _ _ => 1 + Tree.depth body
  | .group _ body => 1 + Tree.depth body
  | .concat parts => 1 + Tree.depths parts
  | .alternatives branches => 1 + Tree.depths branches
  | .empty => 0
  | .flags _ => 0
  | .literal _ => 0
  | .dot => 0
  | .assertion _ => 0
  | .short _ _ => 0
  | .property _ _ => 0

def Tree.depths : List Tree → Nat
  | [] => 0
  | t :: rest => max (Tree.depth t) (Tree.depths rest)
end

def maxNesting : Nat := 250

namespace Tree

def ofParts : List Tree → Tree
  | [] => .empty
  | [t] => t
  | ts => .concat ts

def repeatable : Tree → Bool
  | .empty => false
  | .flags _ => false
  | _ => true

end Tree

def ClassTree.ofItems : List ClassTree → ClassTree
  | [t] => t
  | ts => .union ts

end StorePolicy.Pattern

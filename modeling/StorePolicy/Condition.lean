import StorePolicy.Json.Value
import StorePolicy.Text.Case

/-!
# Conditions

A condition is a predicate over the files of a project: a leaf looks at one target, a
path relative to the root of the project, and a composite joins other conditions by a
logic. The depth of a leaf is one, and so is that of a composite without checks.
-/
namespace StorePolicy

inductive Logic where
  | allOf
  | anyOf
  | noneOf
deriving DecidableEq, Inhabited

namespace Logic

def name : Logic → String
  | .allOf => "all_of"
  | .anyOf => "any_of"
  | .noneOf => "none_of"

def all : List Logic := [.allOf, .anyOf, .noneOf]

def ofName? (s : String) : Option Logic := all.find? (·.name == s)

def parse? (s : String) : Option Logic :=
  match Text.lowerBasic s with
  | "all_of" | "all" => some .allOf
  | "any_of" | "any" => some .anyOf
  | "none_of" | "none" => some .noneOf
  | _ => none

def unknown (s : String) : String := "Unknown logic: " ++ s

def combine : Logic → List Bool → Bool
  | .allOf, bs => bs.all id
  | .anyOf, bs => bs.any id
  | .noneOf, bs => !bs.any id

/-- The result of one child that settles the outcome. -/
def decisive : Logic → Bool
  | .allOf => false
  | .anyOf => true
  | .noneOf => true

def asked (l : Logic) (bs : List Bool) : Nat :=
  min bs.length ((bs.takeWhile (· ≠ l.decisive)).length + 1)

theorem combine_anyOf_eq_not_noneOf (bs : List Bool) :
    combine .anyOf bs = !combine .noneOf bs := by simp [combine]

end Logic

inductive Condition where
  | fileExists (target : String)
  | fileNotExists (target : String)
  | jsonPathExists (target path : String)
  | jsonPathEquals (target path : String) (value : Json)
  | jsonPathMatches (target path pattern : String)
  | yamlPathExists (target path : String)
  | xmlPathExists (target path : String)
  | patternInFile (target pattern : String)
  | composite (logic : Logic) (checks : List Condition)
deriving Inhabited

namespace Condition

def kind : Condition → String
  | .fileExists _ => "file_exists"
  | .fileNotExists _ => "file_not_exists"
  | .jsonPathExists _ _ => "json_path_exists"
  | .jsonPathEquals _ _ _ => "json_path_equals"
  | .jsonPathMatches _ _ _ => "json_path_matches"
  | .yamlPathExists _ _ => "yaml_path_exists"
  | .xmlPathExists _ _ => "xml_xpath_exists"
  | .patternInFile _ _ => "regex_in_file"
  | .composite _ _ => "composite"

def target? : Condition → Option String
  | .fileExists t => some t
  | .fileNotExists t => some t
  | .jsonPathExists t _ => some t
  | .jsonPathEquals t _ _ => some t
  | .jsonPathMatches t _ _ => some t
  | .yamlPathExists t _ => some t
  | .xmlPathExists t _ => some t
  | .patternInFile t _ => some t
  | .composite _ _ => none

mutual
def depth : Condition → Nat
  | .composite _ checks => 1 + deepest checks
  | .fileExists _ => 1
  | .fileNotExists _ => 1
  | .jsonPathExists _ _ => 1
  | .jsonPathEquals _ _ _ => 1
  | .jsonPathMatches _ _ _ => 1
  | .yamlPathExists _ _ => 1
  | .xmlPathExists _ _ => 1
  | .patternInFile _ _ => 1

def deepest : List Condition → Nat
  | [] => 0
  | c :: rest => max (depth c) (deepest rest)
end

mutual
def leaves : Condition → List Condition
  | .composite _ checks => leavesOf checks
  | .fileExists t => [.fileExists t]
  | .fileNotExists t => [.fileNotExists t]
  | .jsonPathExists t p => [.jsonPathExists t p]
  | .jsonPathEquals t p v => [.jsonPathEquals t p v]
  | .jsonPathMatches t p r => [.jsonPathMatches t p r]
  | .yamlPathExists t p => [.yamlPathExists t p]
  | .xmlPathExists t p => [.xmlPathExists t p]
  | .patternInFile t r => [.patternInFile t r]

def leavesOf : List Condition → List Condition
  | [] => []
  | c :: rest => leaves c ++ leavesOf rest
end

def leafCount (c : Condition) : Nat := c.leaves.length

def targets (c : Condition) : List String := c.leaves.filterMap target?

mutual
/-- Equality, with the values compared as JSON values are. -/
def same : Condition → Condition → Bool
  | .fileExists t, .fileExists t' => t == t'
  | .fileNotExists t, .fileNotExists t' => t == t'
  | .jsonPathExists t p, .jsonPathExists t' p' => t == t' && p == p'
  | .jsonPathEquals t p v, .jsonPathEquals t' p' v' => t == t' && p == p' && v.same v'
  | .jsonPathMatches t p r, .jsonPathMatches t' p' r' => t == t' && p == p' && r == r'
  | .yamlPathExists t p, .yamlPathExists t' p' => t == t' && p == p'
  | .xmlPathExists t p, .xmlPathExists t' p' => t == t' && p == p'
  | .patternInFile t r, .patternInFile t' r' => t == t' && r == r'
  | .composite l cs, .composite l' cs' => l == l' && sameList cs cs'
  | _, _ => false

def sameList : List Condition → List Condition → Bool
  | [], [] => true
  | a :: as, b :: bs => same a b && sameList as bs
  | _, _ => false
end

theorem one_le_depth (c : Condition) : 1 ≤ c.depth := by
  cases c <;> simp [depth]

theorem depth_le_deepest {c : Condition} {cs : List Condition} (h : c ∈ cs) :
    c.depth ≤ deepest cs := by
  induction cs with
  | nil => simp at h
  | cons a rest ih =>
    rcases List.mem_cons.1 h with rfl | h
    · exact Nat.le_max_left _ _
    · exact Nat.le_trans (ih h) (Nat.le_max_right _ _)

end Condition
end StorePolicy

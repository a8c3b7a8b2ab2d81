import StorePolicy.Json.Printer
import StorePolicy.Path.Dotted
import StorePolicy.Path.Segment
import StorePolicy.Trace

/-!
# Strategies for paths

A path into a JSON document is read by strategies, one after the other, and the first
that finds a value decides. The usual strategies are JSON paths and then dotted paths.
A strategy that rejects the path is noted in the log.
-/
namespace StorePolicy.Path

inductive Strategy where
  | jsonPath
  | dotted
deriving DecidableEq

namespace Strategy

def name : Strategy → String
  | .jsonPath => "jsonpath"
  | .dotted => "dot-path"

def resolve : Strategy → Json → String → Option (List Json)
  | .jsonPath, j, path => matches? j path
  | .dotted, j, path => some (walk j path).toList

def usual : List Strategy := [.jsonPath, .dotted]

def dottedOnly : List Strategy := [.dotted]

end Strategy

def first : List Strategy → Json → String → Option Json
  | [], _, _ => none
  | s :: rest, j, path =>
    match s.resolve j path with
    | some (v :: _) => some v
    | _ => first rest j path

def firstLog : List Strategy → Json → String → List Log.Line
  | [], _, _ => []
  | s :: rest, j, path =>
    match s.resolve j path with
    | some (_ :: _) => []
    | some [] => firstLog rest j path
    | none =>
      ⟨.trace, s.name ++ " resolver rejected path '" ++ path ++ "'"⟩ :: firstLog rest j path

def reaches (strategies : List Strategy) (j : Json) (path : String) : Bool :=
  match first strategies j path with
  | some v => !v.isNull
  | none => false

def plainText : Json → String
  | .str s => s
  | j => j.compact

end StorePolicy.Path

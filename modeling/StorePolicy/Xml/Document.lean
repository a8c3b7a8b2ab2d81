import StorePolicy.Text.Blank
import StorePolicy.Xml.Event

/-!
# XML documents

The elements of a document stand in a row, in the order of their starts, behind a node
for the document itself. Each knows its parent and its children by their places. The text
of an element is what stands in it before its first child. A document has one root, and
nothing but blanks outside of it.
-/
namespace StorePolicy.Xml

structure Element where
  name : String
  attributes : List (String × String)
  text : String
  parent : Option Nat
  children : List Nat
deriving Inhabited

def Element.attribute? (e : Element) (name : String) : Option String := e.attributes.lookup name

structure Document where
  nodes : Array Element

inductive Fault where
  | malformed
  | badAttribute
  | unbalancedEnd
  | unclosed (name : String)
  | noRoot
  | multipleRoots
  | textOutside

namespace Fault

def message? : Fault → Option String
  | .malformed => none
  | .badAttribute => none
  | .unbalancedEnd => some "unbalanced end tag"
  | .unclosed name => some ("unclosed element '" ++ name ++ "'")
  | .noRoot => some "no root element"
  | .multipleRoots => some "multiple root elements"
  | .textOutside => some "text outside of root element"

end Fault

structure Builder where
  nodes : Array Element
  opened : List Nat

namespace Builder

def start : Builder := ⟨#[⟨"", [], "", none, []⟩], []⟩

def current (b : Builder) : Nat := b.opened.head?.getD 0

def childrenAt (b : Builder) (i : Nat) : List Nat := ((b.nodes[i]?).map (·.children)).getD []

def nameAt (b : Builder) (i : Nat) : String := ((b.nodes[i]?).map (·.name)).getD ""

def addElement (b : Builder) (tag : Tag) : Except Fault (Nat × Builder) :=
  let parent := b.current
  if parent = 0 && !(b.childrenAt 0).isEmpty then .error .multipleRoots
  else
    match tag.attributes with
    | none => .error .badAttribute
    | some attributes =>
      let i := b.nodes.size
      let nodes := b.nodes.push ⟨tag.name, attributes, "", some parent, []⟩
      .ok (i, { b with nodes := nodes.modify parent fun e => { e with children := e.children ++ [i] } })

def addText (b : Builder) (s : String) : Except Fault Builder :=
  let i := b.current
  if i = 0 then if Text.blank s then .ok b else .error .textOutside
  else if (b.childrenAt i).isEmpty then
    .ok { b with nodes := b.nodes.modify i fun e => { e with text := e.text ++ s } }
  else .ok b

def step (b : Builder) : Event → Except Fault Builder
  | .start tag => do
    let (i, b) ← b.addElement tag
    return { b with opened := i :: b.opened }
  | .empty tag => do return (← b.addElement tag).2
  | .finish =>
    match b.opened with
    | [] => .error .unbalancedEnd
    | _ :: rest => .ok { b with opened := rest }
  | .text (some s) => b.addText s
  | .text none => .error .malformed
  | .cdata s => b.addText s
  | .other => .ok b
  | .broken => .error .malformed

def finish (b : Builder) : Except Fault Document :=
  match b.opened with
  | i :: _ => .error (.unclosed (b.nameAt i))
  | [] => if (b.childrenAt 0).isEmpty then .error .noRoot else .ok ⟨b.nodes⟩

end Builder

namespace Document

def ofEvents (es : List Event) : Except Fault Document := do
  (← es.foldlM Builder.step Builder.start).finish

def ofString (s : String) : Except Fault Document := ofEvents (events s)

def origin : Nat := 0

def node? (d : Document) (i : Nat) : Option Element := d.nodes[i]?

def element? (d : Document) (i : Nat) : Option Element := if i = origin then none else d.nodes[i]?

def size (d : Document) : Nat := d.nodes.size - 1

def children (d : Document) (i : Nat) : List Nat := ((d.node? i).map (·.children)).getD []

def nameAt (d : Document) (i : Nat) : String := ((d.node? i).map (·.name)).getD ""

def textAt (d : Document) (i : Nat) : String := ((d.node? i).map (·.text)).getD ""

def parent? (d : Document) (i : Nat) : Option Nat := (d.node? i).bind (·.parent)

def rootPlace? (d : Document) : Option Nat := (d.children origin).head?

def root? (d : Document) : Option Element := d.rootPlace?.bind d.node?

end Document
end StorePolicy.Xml

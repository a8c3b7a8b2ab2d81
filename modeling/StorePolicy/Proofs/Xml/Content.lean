import StorePolicy.Proofs.Attempt
import StorePolicy.Xml.Document

/-!
# The content of XML documents

What stands in an element is a row of items: texts, elements and everything else. Written out as
events, items are balanced. A document is one element with blanks around it, and reading its events
lays the nodes of the element out in the order of their starts; no other events are accepted.
The builder works at one node, that of the innermost open element, and behind all nodes so far; so
the row of nodes is split there.
-/
namespace StorePolicy.Xml

inductive Item where
  | text (s : String)
  | cdata (s : String)
  | other
  | empty (name : String) (attributes : List (String × String))
  | element (name : String) (attributes : List (String × String)) (content : List Item)

namespace Item

mutual
def events : Item → List Event
  | .text s => [.text (some s)]
  | .cdata s => [.cdata s]
  | .other => [.other]
  | .empty name attributes => [.empty ⟨name, some attributes⟩]
  | .element name attributes content =>
    .start ⟨name, some attributes⟩ :: (eventsOf content ++ [.finish])

def eventsOf : List Item → List Event
  | [] => []
  | x :: rest => events x ++ eventsOf rest
end

def isElement : Item → Bool
  | .empty _ _ => true
  | .element _ _ _ => true
  | _ => false

def isBlank : Item → Bool
  | .text s => Text.blank s
  | .cdata s => Text.blank s
  | .other => true
  | _ => false

def characters : Item → String
  | .text s => s
  | .cdata s => s
  | _ => ""

mutual
def count : Item → Nat
  | .empty _ _ => 1
  | .element _ _ content => 1 + countOf content
  | _ => 0

def countOf : List Item → Nat
  | [] => 0
  | x :: rest => count x + countOf rest
end

def leadText : List Item → String
  | [] => ""
  | x :: rest => if x.isElement then "" else x.characters ++ leadText rest

/-- The places of the elements that are not inside of another, from the place of the first. -/
def places (i : Nat) : List Item → List Nat
  | [] => []
  | x :: rest => (if x.isElement then [i] else []) ++ places (i + x.count) rest

mutual
/-- The nodes of an item from a place on: an element stands before all that is inside of it. -/
def layout (parent i : Nat) : Item → List Element
  | .empty name attributes => [⟨name, attributes, "", some parent, []⟩]
  | .element name attributes content =>
    ⟨name, attributes, leadText content, some parent, places (i + 1) content⟩ ::
      layoutOf i (i + 1) content
  | .text _ => []
  | .cdata _ => []
  | .other => []

def layoutOf (parent i : Nat) : List Item → List Element
  | [] => []
  | x :: rest => layout parent i x ++ layoutOf parent (i + x.count) rest
end

mutual
theorem length_layout (parent i : Nat) (x : Item) : (x.layout parent i).length = x.count := by
  cases x with
  | element name attributes content =>
    rw [layout, count, List.length_cons, length_layoutOf i (i + 1) content, Nat.add_comm]
  | _ => simp [layout, count]

theorem length_layoutOf (parent i : Nat) (items : List Item) :
    (layoutOf parent i items).length = countOf items := by
  cases items with
  | nil => rfl
  | cons x rest =>
    rw [layoutOf, countOf, List.length_append, length_layout parent i x,
      length_layoutOf parent (i + x.count) rest]
end

theorem eventsOf_append (xs ys : List Item) : eventsOf (xs ++ ys) = eventsOf xs ++ eventsOf ys := by
  induction xs with
  | nil => rfl
  | cons x rest ih => simp [eventsOf, ih]

end Item

open Item

/-- An element once more items stand in it, with the next node at a place. -/
def Element.holding (e : Element) (i : Nat) (items : List Item) : Element :=
  { e with
    text := if e.children.isEmpty then e.text ++ leadText items else e.text
    children := e.children ++ places i items }

theorem Element.holding_nil (e : Element) (i : Nat) : e.holding i [] = e := by
  simp [holding, leadText, places]

theorem Element.holding_cons (e : Element) (i : Nat) (x : Item) (rest : List Item) :
    (e.holding i [x]).holding (i + x.count) rest = e.holding i (x :: rest) := by
  cases hchildren : e.children.isEmpty <;> cases hx : x.isElement <;>
    simp_all [holding, leadText, places, String.append_assoc]

def Element.started (parent : Nat) (name : String) (attributes : List (String × String)) : Element :=
  ⟨name, attributes, "", some parent, []⟩

namespace Builder

abbrev between (before : List Element) (e : Element) (after : List Element) (opened : List Nat) :
    Builder := ⟨(before ++ e :: after).toArray, opened⟩

section Between

variable {before after : List Element} {e : Element} {opened : List Nat}

theorem between_last (x : Element) :
    between before e (after ++ [x]) opened = between (before ++ e :: after) x [] opened := by
  simp [between]

theorem modify_between (f : Element → Element) :
    (before ++ e :: after).toArray.modify before.length f = (before ++ f e :: after).toArray := by
  rw [List.modify_toArray, List.modify_eq_take_cons_drop (by simp)]
  simp

theorem childrenAt_between :
    (between before e after opened).childrenAt before.length = e.children := by
  simp [childrenAt]

theorem addElement_between (hcurrent : (between before e after opened).current = before.length)
    (hroot : before = [] → e.children = []) (name : String) (attributes : List (String × String)) :
    (between before e after opened).addElement ⟨name, some attributes⟩ =
      .ok ((before ++ e :: after).length,
        between before { e with children := e.children ++ [(before ++ e :: after).length] }
          (after ++ [.started before.length name attributes]) opened) := by
  have hfirst : (before.length = 0 &&
      !((between before e after opened).childrenAt 0).isEmpty) = false := by
    cases hbefore : before with
    | nil => simp [childrenAt, hroot hbefore]
    | cons a rest => simp
  have hpush : (before ++ e :: after).toArray.push (.started before.length name attributes) =
      (before ++ e :: (after ++ [.started before.length name attributes])).toArray := by
    simp
  rw [Element.started] at hpush
  rw [addElement, hcurrent]
  simp only [hfirst, Bool.false_eq_true, if_false, hpush, modify_between, List.size_toArray,
    Element.started]

theorem addText_between (hcurrent : (between before e after opened).current = before.length)
    (hinside : before ≠ []) (s : String) :
    (between before e after opened).addText s =
      .ok (between before
        { e with text := if e.children.isEmpty then e.text ++ s else e.text } after opened) := by
  have hne : before.length ≠ 0 := by simpa using hinside
  rw [addText, hcurrent]
  simp only [if_neg hne, childrenAt_between, modify_between]
  cases e.children.isEmpty <;> simp

theorem step_empty_between (hcurrent : (between before e after opened).current = before.length)
    (hroot : before = [] → e.children = []) (name : String) (attributes : List (String × String)) :
    (between before e after opened).step (.empty ⟨name, some attributes⟩) =
      .ok (between before { e with children := e.children ++ [(before ++ e :: after).length] }
        (after ++ [.started before.length name attributes]) opened) := by
  rw [step, addElement_between hcurrent hroot]
  rfl

theorem step_start_between (hcurrent : (between before e after opened).current = before.length)
    (hroot : before = [] → e.children = []) (name : String) (attributes : List (String × String)) :
    (between before e after opened).step (.start ⟨name, some attributes⟩) =
      .ok (between
        (before ++ { e with children := e.children ++ [(before ++ e :: after).length] } :: after)
        (.started before.length name attributes) [] ((before ++ e :: after).length :: opened)) := by
  rw [step, addElement_between hcurrent hroot]
  exact congrArg Except.ok (between_last _)

end Between

theorem run_cons {b b' : Builder} {e : Event} (h : b.step e = .ok b') (es : List Event) :
    (e :: es).foldlM step b = es.foldlM step b' := by
  rw [List.foldlM_cons, h]
  rfl

theorem run_append {b b' : Builder} {es : List Event} (h : es.foldlM step b = .ok b')
    (rest : List Event) : (es ++ rest).foldlM step b = rest.foldlM step b' := by
  rw [List.foldlM_append, h]
  rfl

theorem holding_of_not_isElement {x : Item} (hx : x.isElement = false) (e : Element) (i : Nat) :
    e.holding i [x] =
      { e with text := if e.children.isEmpty then e.text ++ x.characters else e.text } := by
  simp [Element.holding, leadText, places, hx]

theorem holding_of_isElement {x : Item} (hx : x.isElement = true) (e : Element) (i : Nat) :
    e.holding i [x] = { e with children := e.children ++ [i] } := by
  simp [Element.holding, leadText, places, hx]

-- by recursion on the content: an element is started behind all nodes, and its content is run there
mutual
theorem run_item (x : Item) {before after : List Element} {e : Element} {opened : List Nat}
    (hcurrent : (between before e after opened).current = before.length)
    (hroot : before = [] → x.isElement = true ∧ e.children = []) :
    x.events.foldlM step (between before e after opened) =
      .ok (between before (e.holding (before ++ e :: after).length [x])
        (after ++ x.layout before.length (before ++ e :: after).length) opened) := by
  have hfirst : before = [] → e.children = [] := fun h => (hroot h).2
  have hinside : x.isElement = false → before ≠ [] := by
    intro hx hbefore
    simp [(hroot hbefore).1] at hx
  cases x with
  | text s =>
    have hstep : (between before e after opened).step (.text (some s)) = _ :=
      addText_between hcurrent (hinside rfl) s
    rw [Item.events, run_cons hstep, holding_of_not_isElement rfl, layout, List.append_nil]
    rfl
  | cdata s =>
    have hstep : (between before e after opened).step (.cdata s) = _ :=
      addText_between hcurrent (hinside rfl) s
    rw [Item.events, run_cons hstep, holding_of_not_isElement rfl, layout, List.append_nil]
    rfl
  | other =>
    have hsame : (if e.children.isEmpty then e.text ++ Item.other.characters else e.text) = e.text := by
      simp [characters]
    rw [Item.events, run_cons rfl, holding_of_not_isElement rfl, layout, List.append_nil, hsame]
    rfl
  | empty name attributes =>
    rw [Item.events, run_cons (step_empty_between hcurrent hfirst name attributes),
      holding_of_isElement rfl, layout]
    rfl
  | element name attributes content =>
    have hstart := step_start_between hcurrent hfirst name attributes
    rw [holding_of_isElement rfl, layout]
    generalize hn : (before ++ e :: after).length = n at hstart ⊢
    generalize hbefore : before ++ { e with children := e.children ++ [n] } :: after = before' at hstart
    have hlength : before'.length = n := by
      rw [← hbefore, ← hn]
      simp
    have hinner : before' ≠ [] := by simp [← hbefore]
    have hcontent : (eventsOf content).foldlM step
        (between before' (.started before.length name attributes) [] (n :: opened)) = _ :=
      run_items content hlength.symm hinner
    rw [List.length_append, hlength] at hcontent
    rw [Item.events, run_cons hstart, run_append hcontent, run_cons rfl, ← hbefore]
    simp only [Element.holding, Element.started, List.isEmpty_nil, if_true, String.empty_append,
      List.length_cons, List.length_nil, Nat.zero_add, List.nil_append, List.append_assoc,
      List.cons_append, List.foldlM_nil]
    rfl

theorem run_items (items : List Item) {before after : List Element} {e : Element} {opened : List Nat}
    (hcurrent : (between before e after opened).current = before.length)
    (hinside : before ≠ []) :
    (eventsOf items).foldlM step (between before e after opened) =
      .ok (between before (e.holding (before ++ e :: after).length items)
        (after ++ layoutOf before.length (before ++ e :: after).length items) opened) := by
  cases items with
  | nil =>
    rw [eventsOf, Element.holding_nil, layoutOf, List.append_nil]
    rfl
  | cons x rest =>
    generalize hn : (before ++ e :: after).length = n
    have hx := run_item x hcurrent (fun h => absurd h hinside)
    rw [hn] at hx
    have hnext : (before ++ e.holding n [x] :: (after ++ x.layout before.length n)).length =
        n + x.count := by
      rw [← hn]
      simp only [List.length_append, List.length_cons, length_layout]
      omega
    have hrest : (eventsOf rest).foldlM step (between before (e.holding n [x])
        (after ++ x.layout before.length n) opened) = _ := run_items rest hcurrent hinside
    rw [hnext, Element.holding_cons, List.append_assoc] at hrest
    rw [eventsOf, run_append hx, hrest, layoutOf]
end

theorem run_blank {b : Builder} (hopened : b.opened = []) {items : List Item}
    (hblank : ∀ x ∈ items, x.isBlank = true) : (eventsOf items).foldlM step b = .ok b := by
  have htext : ∀ s, Text.blank s = true → b.addText s = .ok b := by
    intro s hs
    simp [addText, current, hopened, hs]
  induction items with
  | nil => rfl
  | cons x rest ih =>
    obtain ⟨hx, hrest⟩ := List.forall_mem_cons.1 hblank
    have hstep : x.events.foldlM step b = .ok b := by
      cases x with
      | text s =>
        have htextStep : b.step (.text (some s)) = .ok b := htext s hx
        exact run_cons htextStep []
      | cdata s =>
        have hcdataStep : b.step (.cdata s) = .ok b := htext s hx
        exact run_cons hcdataStep []
      | other => rfl
      | empty name attributes => cases hx
      | element name attributes content => cases hx
    rw [eventsOf, run_append hstep, ih hrest]

theorem addElement_eq_ok {b b' : Builder} {tag : Tag} {i : Nat}
    (h : b.addElement tag = .ok (i, b')) :
    (∃ attributes, tag = ⟨tag.name, some attributes⟩) ∧ b'.opened = b.opened ∧
      (b.opened = [] → b.childrenAt 0 = []) := by
  obtain ⟨name, attributes⟩ := tag
  cases hroot : decide (b.current = 0) && !(b.childrenAt 0).isEmpty with
  | true => simp [addElement, hroot] at h
  | false =>
    cases attributes with
    | none => simp [addElement, hroot] at h
    | some attributes =>
      simp only [addElement, hroot, Bool.false_eq_true, if_false, Except.ok.injEq,
        Prod.mk.injEq] at h
      obtain ⟨-, rfl⟩ := h
      refine ⟨⟨attributes, rfl⟩, rfl, ?_⟩
      intro hopened
      simpa [current, hopened] using hroot

theorem addText_eq_ok {b b' : Builder} {s : String} (h : b.addText s = .ok b') :
    b'.opened = b.opened ∧ (b.opened = [] → Text.blank s = true) := by
  by_cases hcurrent : b.current = 0
  · simp only [addText, hcurrent, if_true] at h
    split at h
    · next hblank =>
      obtain rfl := Except.ok.inj h
      exact ⟨rfl, fun _ => hblank⟩
    · cases h
  · have hinside : b.opened ≠ [] := fun hopened => hcurrent (by simp [current, hopened])
    simp only [addText, if_neg hcurrent] at h
    split at h <;> obtain rfl := Except.ok.inj h <;> exact ⟨rfl, fun hopened => absurd hopened hinside⟩

/-- A step starts an element, ends one or reads an item on its own; outside of the root that
is a blank item or the root. -/
theorem step_cases {b b' : Builder} {e : Event} (h : b.step e = .ok b') :
    (∃ name attributes i, e = .start ⟨name, some attributes⟩ ∧ b'.opened = i :: b.opened ∧
      (b.opened = [] → b.childrenAt 0 = [])) ∨
    (e = .finish ∧ ∃ i, b.opened = i :: b'.opened) ∨
    ∃ x : Item, x.events = [e] ∧ b'.opened = b.opened ∧
      (b.opened = [] → x.isBlank = true ∨ x.isElement = true ∧ b.childrenAt 0 = []) := by
  cases e with
  | start tag =>
    obtain ⟨⟨i, b₁⟩, hadd, hb'⟩ := bind_eq_ok_iff.1 h
    obtain ⟨⟨attributes, htag⟩, hopened, hroot⟩ := addElement_eq_ok hadd
    obtain rfl := Except.ok.inj hb'
    exact .inl ⟨tag.name, attributes, i, by rw [← htag], congrArg (i :: ·) hopened, hroot⟩
  | empty tag =>
    obtain ⟨⟨i, b₁⟩, hadd, hb'⟩ := bind_eq_ok_iff.1 h
    obtain ⟨⟨attributes, htag⟩, hopened, hroot⟩ := addElement_eq_ok hadd
    obtain rfl := Except.ok.inj hb'
    refine .inr (.inr ⟨.empty tag.name attributes, ?_, hopened, fun hout => ?_⟩)
    · rw [Item.events, ← htag]
    · exact .inr ⟨rfl, hroot hout⟩
  | finish =>
    cases hopened : b.opened with
    | nil => simp [step, hopened] at h
    | cons i rest =>
      have hb' : { b with opened := rest } = b' := by simpa [step, hopened] using h
      exact .inr (.inl ⟨rfl, i, by rw [← hb']⟩)
  | text s =>
    cases s with
    | none => cases h
    | some s =>
      obtain ⟨hopened, hblank⟩ := addText_eq_ok h
      exact .inr (.inr ⟨.text s, rfl, hopened, fun hout => .inl (hblank hout)⟩)
  | cdata s =>
    obtain ⟨hopened, hblank⟩ := addText_eq_ok h
    exact .inr (.inr ⟨.cdata s, rfl, hopened, fun hout => .inl (hblank hout)⟩)
  | other =>
    obtain rfl := Except.ok.inj h
    exact .inr (.inr ⟨.other, rfl, rfl, fun _ => .inl rfl⟩)
  | broken => cases h

/-- Where more elements are ended than started, the row of items up to the first end that is not
of its own is told apart. -/
theorem exists_items (es : List Event) {b b' : Builder} (h : es.foldlM step b = .ok b')
    (hopened : b'.opened.length < b.opened.length) :
    ∃ items rest b₁, es = eventsOf items ++ .finish :: rest ∧ rest.foldlM step b₁ = .ok b' ∧
      b₁.opened.length + 1 = b.opened.length := by
  cases es with
  | nil =>
    obtain rfl := Except.ok.inj h
    omega
  | cons e es =>
    obtain ⟨b₀, hstep, hrun⟩ := foldlM_cons_eq_ok_iff.1 h
    rcases step_cases hstep with ⟨name, attributes, i, rfl, hstart, -⟩ | ⟨rfl, i, hfinish⟩ |
      ⟨x, hx, hsame, -⟩
    · have hlength : b₀.opened.length = b.opened.length + 1 := by simp [hstart]
      obtain ⟨content, rest, b₁, rfl, hrest, hb₁⟩ := exists_items es hrun (by omega)
      obtain ⟨items, rest', b₂, rfl, hrest', hb₂⟩ := exists_items rest hrest (by omega)
      refine ⟨.element name attributes content :: items, rest', b₂, ?_, hrest', by omega⟩
      simp [eventsOf, Item.events]
    · exact ⟨[], es, b₀, rfl, hrun, by simp [hfinish]⟩
    · obtain ⟨items, rest, b₁, rfl, hrest, hb₁⟩ := exists_items es hrun (by rwa [hsame])
      refine ⟨x :: items, rest, b₁, ?_, hrest, by rw [hb₁, hsame]⟩
      simp [eventsOf, hx]
termination_by es.length
decreasing_by
  all_goals simp_all
  all_goals omega

theorem exists_root {b b' : Builder} {e : Event} {es : List Event}
    (h : (e :: es).foldlM step b = .ok b') (hopened : b.opened = []) (hclosed : b'.opened = []) :
    (∃ x : Item, x.events = [e] ∧ x.isBlank = true) ∨
    b.childrenAt 0 = [] ∧ ∃ (root : Item) (rest : List Event),
      root.isElement = true ∧ e :: es = root.events ++ rest := by
  obtain ⟨b₀, hstep, hrun⟩ := foldlM_cons_eq_ok_iff.1 h
  rcases step_cases hstep with ⟨name, attributes, i, rfl, hstart, hroot⟩ | ⟨-, i, hfinish⟩ |
    ⟨x, hx, -, hout⟩
  · have hlength : b₀.opened.length = 1 := by simp [hstart, hopened]
    obtain ⟨content, rest, -, rfl, -⟩ := exists_items es hrun (by simp [hclosed, hlength])
    refine .inr ⟨hroot hopened, .element name attributes content, rest, rfl, ?_⟩
    simp [Item.events]
  · simp [hopened] at hfinish
  · rcases hout hopened with hblank | ⟨helement, hroot⟩
    · exact .inl ⟨x, hx, hblank⟩
    · exact .inr ⟨hroot, x, es, helement, by simp [hx]⟩

/-- Outside of the root the row of blank items is told apart; what follows is nothing or the root. -/
theorem exists_blank (es : List Event) {b b' : Builder} (h : es.foldlM step b = .ok b')
    (hopened : b.opened = []) (hclosed : b'.opened = []) :
    ∃ items rest, es = eventsOf items ++ rest ∧ (∀ x ∈ items, x.isBlank = true) ∧
      (rest = [] ∨
        b.childrenAt 0 = [] ∧ ∃ (root : Item) (rest' : List Event),
          root.isElement = true ∧ rest = root.events ++ rest') := by
  induction es with
  | nil => exact ⟨[], [], rfl, by simp, .inl rfl⟩
  | cons e es ih =>
    rcases exists_root h hopened hclosed with ⟨x, hx, hblank⟩ | hroot
    · have hstep : x.events.foldlM step b = .ok b := by
        have hitem : (eventsOf [x]).foldlM step b = .ok b := run_blank hopened (by simpa using hblank)
        simpa [eventsOf] using hitem
      have hrun : es.foldlM step b = .ok b' := by
        rw [← run_append hstep, hx]
        exact h
      obtain ⟨items, rest, rfl, hitems, hrest⟩ := ih hrun
      refine ⟨x :: items, rest, ?_, List.forall_mem_cons.2 ⟨hblank, hitems⟩, hrest⟩
      simp [eventsOf, hx]
    · exact ⟨[], e :: es, rfl, by simp, .inr hroot⟩

end Builder

namespace Document

def ofRoot (root : Item) : Document :=
  ⟨(⟨"", [], "", none, [1]⟩ :: root.layout 0 1).toArray⟩

theorem run_root {root : Item} (hroot : root.isElement = true) :
    root.events.foldlM Builder.step Builder.start = .ok ⟨(ofRoot root).nodes, []⟩ := by
  have hrun : root.events.foldlM Builder.step (.between [] ⟨"", [], "", none, []⟩ [] []) = _ :=
    Builder.run_item root rfl fun _ => ⟨hroot, rfl⟩
  rw [Builder.holding_of_isElement hroot] at hrun
  exact hrun

theorem ofEvents_eventsOf {before after : List Item} {root : Item} (hroot : root.isElement = true)
    (hblank : ∀ x ∈ before ++ after, x.isBlank = true) :
    ofEvents (eventsOf (before ++ root :: after)) = .ok (ofRoot root) := by
  obtain ⟨hbefore, hafter⟩ := List.forall_mem_append.1 hblank
  rw [ofEvents, eventsOf_append, Builder.run_append (Builder.run_blank rfl hbefore), eventsOf,
    Builder.run_append (run_root hroot), Builder.run_blank rfl hafter]
  rfl

theorem exists_of_ofEvents {es : List Event} {d : Document} (h : ofEvents es = .ok d) :
    ∃ (before : List Item) (root : Item) (after : List Item), root.isElement = true ∧
      (∀ x ∈ before ++ after, x.isBlank = true) ∧ es = eventsOf (before ++ root :: after) := by
  obtain ⟨b, hrun, hfinish⟩ := bind_eq_ok_iff.1 h
  have hclosed : b.opened = [] := by
    unfold Builder.finish at hfinish
    cases hopened : b.opened with
    | nil => rfl
    | cons i rest => simp [hopened] at hfinish
  obtain ⟨before, rest, rfl, hbefore, hrest⟩ := Builder.exists_blank es hrun rfl hclosed
  rw [Builder.run_append (Builder.run_blank rfl hbefore)] at hrun
  rcases hrest with rfl | ⟨-, root, rest, hroot, rfl⟩
  · obtain rfl := Except.ok.inj hrun
    cases hfinish
  · rw [Builder.run_append (run_root hroot)] at hrun
    obtain ⟨after, rest, rfl, hafter, hrest⟩ := Builder.exists_blank rest hrun rfl hclosed
    rcases hrest with rfl | ⟨hchildren, -⟩
    · refine ⟨before, root, after, hroot, List.forall_mem_append.2 ⟨hbefore, hafter⟩, ?_⟩
      simp [eventsOf_append, eventsOf]
    · cases hchildren

end Document
end StorePolicy.Xml

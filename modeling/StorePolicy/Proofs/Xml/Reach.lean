import Mathlib.Data.List.Sort
import StorePolicy.Proofs.Xml.Arena
import StorePolicy.Proofs.Xml.Selection

/-!
# What a path finds

A path relates the place it starts from to the places its steps lead to, one relation
after the other. In a document in document order the steps find exactly these, each once:
what is below a place is found in ascending order, and so the groups of one parent are
the children of that parent.
-/
namespace StorePolicy.Xml

section Groups

/-- The groups hold the places so far under their keys, each group in the order of the places. -/
structure Grouped (key : Nat → Nat) (places : List Nat) (groups : List (Nat × List Nat)) : Prop where
  keys : (groups.map (·.1)).Nodup
  mem_iff : ∀ k group, (k, group) ∈ groups ↔ group = places.filter (key · = k) ∧ group ≠ []

variable {key : Nat → Nat} {places group : List Nat} {groups : List (Nat × List Nat)} {k p i : Nat}

theorem keys_groupWith (p i : Nat) (groups : List (Nat × List Nat)) :
    (groupWith p i groups).map (·.1) =
      if p ∈ groups.map (·.1) then groups.map (·.1) else groups.map (·.1) ++ [p] := by
  induction groups with
  | nil => rfl
  | cons entry rest ih =>
    obtain ⟨q, group⟩ := entry
    by_cases hq : q = p
    · simp [groupWith, hq]
    · have hp : p ≠ q := fun h => hq h.symm
      simp only [groupWith, hq, if_false, List.map_cons, ih, List.mem_cons, hp, false_or]
      split <;> rfl

theorem mem_groupWith_iff (h : (groups.map (·.1)).Nodup) :
    (k, group) ∈ groupWith p i groups ↔
      k ≠ p ∧ (k, group) ∈ groups ∨
      k = p ∧ ((∃ before, (p, before) ∈ groups ∧ group = before ++ [i]) ∨
        p ∉ groups.map (·.1) ∧ group = [i]) := by
  induction groups with
  | nil => simp [groupWith]
  | cons entry rest ih =>
    obtain ⟨q, first⟩ := entry
    obtain ⟨hq, hrest⟩ := List.nodup_cons.1 h
    by_cases hqp : q = p
    · subst hqp
      have habsent : ∀ g, (q, g) ∉ rest := fun g hg => hq (List.mem_map.2 ⟨(q, g), hg, rfl⟩)
      by_cases hk : k = q
      · simp [groupWith, hk, habsent]
      · simp [groupWith, hk]
    · have hpq : p ≠ q := fun h => hqp h.symm
      rw [groupWith, if_neg hqp, List.mem_cons, ih hrest]
      by_cases hk : k = p
      · simp [hk, hpq]
      · simp [hk]

theorem Grouped.snoc (h : Grouped key places groups) (i : Nat) :
    Grouped key (places ++ [i]) (groupWith (key i) i groups) := by
  have hpresent : key i ∈ groups.map (·.1) ↔ places.filter (key · = key i) ≠ [] := by
    rw [List.mem_map]
    constructor
    · rintro ⟨⟨k, group⟩, hmem, hk⟩
      obtain ⟨rfl, hne⟩ := (h.mem_iff k group).1 hmem
      exact hk ▸ hne
    · intro hne
      exact ⟨(key i, _), (h.mem_iff _ _).2 ⟨rfl, hne⟩, rfl⟩
  refine ⟨?_, fun k group => ?_⟩
  · rw [keys_groupWith]
    split
    · exact h.keys
    next habsent =>
      rw [← List.concat_eq_append]
      exact h.keys.concat habsent
  · rw [mem_groupWith_iff h.keys, hpresent, List.filter_append]
    by_cases hk : k = key i
    · subst hk
      have hlong : group = places.filter (key · = key i) ++ [i] → group ≠ [] := by
        rintro rfl
        simp
      by_cases hnone : places.filter (key · = key i) = []
      · simpa [h.mem_iff, hnone] using hlong
      · simpa [h.mem_iff, hnone] using hlong
    · have hother : key i ≠ k := fun h => hk h.symm
      simp [h.mem_iff, hk, hother]

theorem grouped_foldl (key : Nat → Nat) (places : List Nat) :
    Grouped key places (places.foldl (fun groups i => groupWith (key i) i groups) []) := by
  -- from the end, since each place goes into the groups of those before it
  induction places using List.reverseRecOn with
  | nil => exact ⟨List.nodup_nil, by simp⟩
  | append_singleton places i ih =>
    rw [List.foldl_append]
    exact ih.snoc i

theorem mem_groupByParent_iff {d : Document} :
    group ∈ groupByParent d places ↔
      group ≠ [] ∧ ∃ k, group = places.filter (fun c => (d.parent? c).getD Document.origin = k) := by
  simp [groupByParent, (grouped_foldl _ places).mem_iff, and_comm]

theorem mem_keepFirsts_iff {seen : List Nat} :
    i ∈ keepFirsts seen places ↔ i ∈ places ∧ i ∉ seen := by
  induction places generalizing seen with
  | nil => simp [keepFirsts]
  | cons j places ih =>
    rw [keepFirsts]
    by_cases hj : j ∈ seen
    · rw [if_pos (List.contains_iff_mem.2 hj), ih, List.mem_cons, or_and_right, or_iff_right]
      rintro ⟨rfl, habsent⟩
      exact habsent hj
    · rw [if_neg (by simpa using hj), List.mem_cons, ih, List.mem_cons, List.mem_cons]
      by_cases hij : i = j
      · simp [hij, hj]
      · simp [hij]

theorem nodup_keepFirsts (seen places : List Nat) : (keepFirsts seen places).Nodup := by
  induction places generalizing seen with
  | nil => exact List.nodup_nil
  | cons j places ih =>
    rw [keepFirsts]
    split
    · exact ih seen
    · refine List.nodup_cons.2 ⟨fun hj => ?_, ih _⟩
      exact (mem_keepFirsts_iff.1 hj).2 List.mem_cons_self

end Groups

namespace Document

variable {d : Document} {i j k : Nat}

theorem children_of_size_le (h : d.nodes.size ≤ i) : d.children i = [] := by
  simp [children, node?, h]

theorem lt_size_of_below (h : d.Below i j) : i < d.nodes.size := by
  obtain ⟨c, hc, -⟩ := below_iff_children.1 h
  by_contra hout
  simp [children_of_size_le (Nat.le_of_not_lt hout)] at hc

theorem InDocumentOrder.lt_of_below (hd : d.InDocumentOrder) (h : d.Below i j) : i < j := by
  obtain ⟨n, hn⟩ := hd.below_iff i (lt_size_of_below h)
  exact ((hn j).1 h).1

theorem InDocumentOrder.lt_of_mem_children (hd : d.InDocumentOrder) (h : j ∈ d.children i) : i < j :=
  hd.lt_of_below (.single h)

theorem below_iff_parent : d.Below i j ↔ ∃ k, (k = i ∨ d.Below i k) ∧ j ∈ d.children k := by
  unfold Below
  rw [Relation.TransGen.tail'_iff]
  simp only [Relation.reflTransGen_iff_eq_or_transGen]
  rfl

theorem InDocumentOrder.lt_of_children (hd : d.InDocumentOrder) {a b : Nat} (ha : a ∈ d.children i)
    (hb : b ∈ d.children i) (hab : a < b) (hj : j = a ∨ d.Below a j) : j < b := by
  rcases hj with rfl | hj
  · exact hab
  have hia := hd.lt_of_mem_children ha
  have hnot : ¬ d.Below a b := by
    intro h
    obtain ⟨k, hk, hbk⟩ := below_iff_parent.1 h
    have hparent := (hd.mem_children_iff k b).1 hbk
    obtain rfl : i = k := Option.some_inj.1 (((hd.mem_children_iff i b).1 hb).symm.trans hparent)
    rcases hk with rfl | hk
    · omega
    · have := hd.lt_of_below hk
      omega
  obtain ⟨n, hn⟩ := hd.below_iff a (lt_size_of_below hj)
  rw [hn] at hnot hj
  omega

theorem InDocumentOrder.mem_descendantsIn_iff (hd : d.InDocumentOrder) {fuel : Nat}
    (hfuel : d.nodes.size ≤ i + fuel) : j ∈ d.descendantsIn fuel i ↔ d.Below i j := by
  -- a child stands further on, so the fuel left is enough for what is below it
  induction fuel generalizing i with
  | zero =>
    rw [below_iff_children]
    simp [descendantsIn, children_of_size_le (i := i) hfuel]
  | succ fuel ih =>
    rw [below_iff_children]
    simp only [descendantsIn, List.mem_flatMap, List.mem_cons]
    refine exists_congr fun c => and_congr_right fun hc => ?_
    have hlt := hd.lt_of_mem_children hc
    rw [ih (by omega), eq_comm]

theorem InDocumentOrder.mem_descendants_iff (hd : d.InDocumentOrder) :
    j ∈ d.descendants i ↔ d.Below i j :=
  hd.mem_descendantsIn_iff (Nat.le_add_left _ _)

theorem InDocumentOrder.ascending_descendantsIn (hd : d.InDocumentOrder) {fuel : Nat}
    (hfuel : d.nodes.size ≤ i + fuel) : (d.descendantsIn fuel i).Pairwise (· < ·) := by
  induction fuel generalizing i with
  | zero => exact .nil
  | succ fuel ih =>
    have hbelow : ∀ c ∈ d.children i, ∀ x, x ∈ d.descendantsIn fuel c ↔ d.Below c x := by
      intro c hc x
      have hlt := hd.lt_of_mem_children hc
      exact hd.mem_descendantsIn_iff (by omega)
    rw [descendantsIn, List.pairwise_flatMap]
    constructor
    · intro c hc
      have hlt := hd.lt_of_mem_children hc
      refine List.pairwise_cons.2 ⟨fun x hx => ?_, ih (by omega)⟩
      exact hd.lt_of_below ((hbelow c hc x).1 hx)
    · refine (hd.ascending i).imp_of_mem fun {a b} ha hb hab x hx y hy => ?_
      rw [List.mem_cons, hbelow a ha] at hx
      rw [List.mem_cons, hbelow b hb] at hy
      have hxb := hd.lt_of_children ha hb hab hx
      rcases hy with rfl | hy
      · exact hxb
      · exact hxb.trans (hd.lt_of_below hy)

theorem InDocumentOrder.ascending_descendants (hd : d.InDocumentOrder) (i : Nat) :
    (d.descendants i).Pairwise (· < ·) :=
  hd.ascending_descendantsIn (Nat.le_add_left _ _)

theorem InDocumentOrder.mem_descendants_of_parent_iff (hd : d.InDocumentOrder) :
    j ∈ d.descendants i ∧ (d.parent? j).getD origin = k ↔
      (k = i ∨ d.Below i k) ∧ j ∈ d.children k := by
  rw [hd.mem_descendants_iff, below_iff_parent]
  constructor
  · rintro ⟨⟨q, hq, hj⟩, hk⟩
    obtain rfl : q = k := by simpa [(hd.mem_children_iff q j).1 hj] using hk
    exact ⟨hq, hj⟩
  · rintro ⟨hk, hj⟩
    exact ⟨⟨k, hk, hj⟩, by simp [(hd.mem_children_iff k j).1 hj]⟩

theorem InDocumentOrder.group_descendants (hd : d.InDocumentOrder) (test : Nat → Bool)
    (hk : k = i ∨ d.Below i k) :
    ((d.descendants i).filter test).filter (fun c => (d.parent? c).getD origin = k) =
      (d.children k).filter test := by
  have hgroup : (d.descendants i).filter (fun c => (d.parent? c).getD origin = k) = d.children k := by
    refine ((hd.ascending_descendants i).filter _).eq_of_mem_iff (hd.ascending k) fun {c} => ?_
    rw [List.mem_filter, decide_eq_true_iff, hd.mem_descendants_of_parent_iff, and_iff_right hk]
  rw [List.filter_comm, hgroup]

end Document

namespace PathStep

variable {d : Document} {s : PathStep} {context : List Nat} {i j : Nat}

def childrenSelected (d : Document) (test : NameTest) (ps : List Predicate) (i : Nat) : Set Nat :=
  Predicate.passing d ps {c | c ∈ d.children i ∧ test.accepts (d.nameAt c) = true}

/-- A step leads from one place to another. -/
def Relates (d : Document) : PathStep → Nat → Nat → Prop
  | .self, i, j => j = i
  | .parent, i, j => i ∈ d.children j ∧ j ≠ Document.origin
  | .child test ps, i, j => j ∈ childrenSelected d test ps i
  | .descendant test ps, i, j => ∃ k, (k = i ∨ d.Below i k) ∧ j ∈ childrenSelected d test ps k

theorem mem_select_child_iff (hd : d.InDocumentOrder) {test : NameTest} {ps : List Predicate}
    (hps : ∀ p ∈ ps, p.Countable) :
    j ∈ Predicate.keepAll d ps ((d.children i).filter fun c => test.accepts (d.nameAt c)) ↔
      j ∈ childrenSelected d test ps i := by
  rw [Predicate.mem_keepAll_iff ((hd.ascending i).filter _) hps, childrenSelected]
  simp only [List.mem_filter]

theorem mem_select_iff (hd : d.InDocumentOrder) (hs : ∀ p ∈ s.predicates, p.Countable) :
    j ∈ s.select d i ↔ s.Relates d i j := by
  cases s with
  | self => simp [select, Relates]
  | parent => simp [select, Relates, hd.mem_children_iff, Option.filter_eq_some_iff]
  | child test ps => exact mem_select_child_iff hd hs
  | descendant test ps =>
    rw [select, List.mem_flatMap, Relates]
    constructor
    · rintro ⟨group, hgroup, hj⟩
      obtain ⟨hne, k, rfl⟩ := mem_groupByParent_iff.1 hgroup
      obtain ⟨c, hc⟩ := List.exists_mem_of_ne_nil _ hne
      obtain ⟨hc, hparent⟩ := List.mem_filter.1 hc
      have hk := (hd.mem_descendants_of_parent_iff.1
        ⟨(List.mem_filter.1 hc).1, of_decide_eq_true hparent⟩).1
      rw [hd.group_descendants _ hk] at hj
      exact ⟨k, hk, (mem_select_child_iff hd hs).1 hj⟩
    · rintro ⟨k, hk, hj⟩
      have hkept := (mem_select_child_iff hd hs).2 hj
      have hmem : j ∈ (d.children k).filter fun c => test.accepts (d.nameAt c) :=
        List.mem_filter.2 (Predicate.passing_subset ps _ hj)
      rw [← hd.group_descendants _ hk] at hkept hmem
      exact ⟨_, mem_groupByParent_iff.2 ⟨List.ne_nil_of_mem hmem, k, rfl⟩, hkept⟩

theorem mem_apply_iff (hd : d.InDocumentOrder) (hs : ∀ p ∈ s.predicates, p.Countable) :
    j ∈ s.apply d context ↔ ∃ i ∈ context, s.Relates d i j := by
  rw [apply, mem_keepFirsts_iff, List.mem_flatMap]
  simp [mem_select_iff hd hs]

end PathStep

namespace Document

variable {d : Document} {path : ElementPath} {steps : List PathStep} {context : List Nat} {i j : Nat}

def Reaches (d : Document) : List PathStep → Nat → Nat → Prop
  | [] => Eq
  | s :: rest => Relation.Comp (s.Relates d) (d.Reaches rest)

theorem InDocumentOrder.mem_foldl_apply_iff (hd : d.InDocumentOrder)
    (hsteps : ∀ s ∈ steps, ∀ p ∈ s.predicates, p.Countable) :
    j ∈ steps.foldl (PathStep.apply d) context ↔ ∃ i ∈ context, d.Reaches steps i j := by
  induction steps generalizing context with
  | nil => simp [Reaches]
  | cons s rest ih =>
    obtain ⟨hs, hrest⟩ := List.forall_mem_cons.1 hsteps
    rw [List.foldl_cons, ih hrest]
    simp only [PathStep.mem_apply_iff hd hs, Reaches, Relation.Comp]
    constructor
    · rintro ⟨k, ⟨i, hi, hik⟩, hkj⟩
      exact ⟨i, hi, k, hik, hkj⟩
    · rintro ⟨i, hi, k, hik, hkj⟩
      exact ⟨k, ⟨i, hi, hik⟩, hkj⟩

theorem nodup_foldl_apply (steps : List PathStep) (hcontext : context.Nodup) :
    (steps.foldl (PathStep.apply d) context).Nodup := by
  induction steps generalizing context with
  | nil => exact hcontext
  | cons s rest ih => exact ih (nodup_keepFirsts _ _)

theorem InDocumentOrder.lt_size_of_mem_children (hd : d.InDocumentOrder) (h : j ∈ d.children i) :
    j < d.nodes.size := by
  have hparent := (hd.mem_children_iff i j).1 h
  by_contra hout
  simp [parent?, node?, Nat.le_of_not_lt hout] at hparent

theorem InDocumentOrder.lt_size_of_relates (hd : d.InDocumentOrder) {s : PathStep}
    (h : s.Relates d i j) (hi : i < d.nodes.size) : j < d.nodes.size := by
  cases s with
  | self => exact h ▸ hi
  | parent => exact lt_size_of_below (.single h.1)
  | child test ps => exact hd.lt_size_of_mem_children (Predicate.passing_subset ps _ h).1
  | descendant test ps =>
    obtain ⟨k, -, hj⟩ := h
    exact hd.lt_size_of_mem_children (Predicate.passing_subset ps _ hj).1

theorem InDocumentOrder.lt_size_of_reaches (hd : d.InDocumentOrder) (h : d.Reaches steps i j)
    (hi : i < d.nodes.size) : j < d.nodes.size := by
  induction steps generalizing i with
  | nil => exact h ▸ hi
  | cons s rest ih =>
    obtain ⟨k, hik, hkj⟩ := h
    exact ih hkj (hd.lt_size_of_relates hik hi)

theorem isSome_element?_iff : (d.element? j).isSome ↔ j ≠ origin ∧ j < d.nodes.size := by
  unfold element?
  split <;> simp_all

/-- A compiled path finds in a document, each once, the elements that its steps lead to from the
document if the path is absolute, and from the root otherwise. -/
theorem mem_find_iff_reaches {es : List Event} (hread : ofEvents es = .ok d) {s : String}
    (hcompile : ElementPath.compile s = .ok path) :
    (d.find path).Nodup ∧
    ∃ root, d.children origin = [root] ∧
      ∀ j, j ∈ d.find path ↔ (d.element? j).isSome ∧
        d.Reaches path.steps (if path.absolute then origin else root) j := by
  have hd := inDocumentOrder_of_ofEvents hread
  have hsteps := countable_of_compile hcompile
  have hroot : 1 ∈ d.children origin := hd.children_origin ▸ List.mem_singleton_self 1
  have hfind : d.find path = (path.steps.foldl (PathStep.apply d)
      [if path.absolute then origin else 1]).filter (· ≠ origin) := by
    unfold find rootPlace?
    rw [hd.children_origin]
    cases path.absolute <;> rfl
  have hstart : (if path.absolute then origin else 1) < d.nodes.size := by
    split
    · exact lt_size_of_below (.single hroot)
    · exact hd.lt_size_of_mem_children hroot
  rw [hfind]
  refine ⟨(nodup_foldl_apply path.steps (List.nodup_singleton _)).filter _, 1, hd.children_origin,
    fun j => ?_⟩
  rw [List.mem_filter, hd.mem_foldl_apply_iff hsteps, isSome_element?_iff]
  simp only [List.mem_singleton, exists_eq_left, decide_eq_true_eq]
  constructor
  · rintro ⟨hreach, hj⟩
    exact ⟨⟨hj, hd.lt_size_of_reaches hreach hstart⟩, hreach⟩
  · rintro ⟨⟨hj, -⟩, hreach⟩
    exact ⟨hreach, hj⟩

theorem mem_find_iff_reaches_of_nested_elements :
    let d := ofRoot (.element "a" [] [.empty "b" [], .element "b" [] [.empty "b" []]])
    let path : ElementPath :=
      ⟨".//b[last()]/..", false, [.self, .descendant (.name "b") [.last], .parent]⟩
    ofEvents [.start ⟨"a", some []⟩, .empty ⟨"b", some []⟩, .start ⟨"b", some []⟩,
      .empty ⟨"b", some []⟩, .finish, .finish] = .ok d ∧
    ElementPath.compile ".//b[last()]/.." = .ok path ∧
    d.find path = [1, 3] ∧
    (d.find path).Nodup ∧
    ∃ root, d.children origin = [root] ∧
      ∀ j, j ∈ d.find path ↔ (d.element? j).isSome ∧
        d.Reaches path.steps (if path.absolute then origin else root) j := by
  intro d path
  have hread : ofEvents [.start ⟨"a", some []⟩, .empty ⟨"b", some []⟩, .start ⟨"b", some []⟩,
      .empty ⟨"b", some []⟩, .finish, .finish] = .ok d := rfl
  have hcompile : ElementPath.compile ".//b[last()]/.." = .ok path := by decide
  exact ⟨hread, hcompile, by decide, mem_find_iff_reaches hread hcompile⟩

end Document
end StorePolicy.Xml

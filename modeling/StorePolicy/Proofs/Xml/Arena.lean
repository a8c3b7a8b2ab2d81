import Mathlib.Logic.Relation
import StorePolicy.Proofs.Xml.Content

/-!
# Documents as trees

The nodes of a document that was read are in document order: a node is a child of another exactly if
that is its parent, the children of a node ascend, and all that is below a node stands right
after it without gaps. This is shown of rows of trees, which are put together from their
parts as the content of an element is.
-/
namespace StorePolicy.Xml

open Item

namespace Document

def HasChild (d : Document) (i j : Nat) : Prop := j ∈ d.children i

def Below (d : Document) : Nat → Nat → Prop := Relation.TransGen d.HasChild

/-- The nodes are a tree, laid out in the order of its elements. -/
structure InDocumentOrder (d : Document) : Prop where
  children_origin : d.children origin = [1]
  mem_children_iff : ∀ i j, j ∈ d.children i ↔ d.parent? j = some i
  ascending : ∀ i, (d.children i).Pairwise (· < ·)
  below_iff : ∀ i < d.nodes.size, ∃ n, ∀ j, d.Below i j ↔ i < j ∧ j ≤ i + n

/-- The nodes from `i` up to `m` are trees, with their roots at `ps` under a common parent. -/
structure Forest (d : Document) (parent i m : Nat) (ps : List Nat) : Prop where
  le : i ≤ m
  roots : ∀ j ∈ ps, i ≤ j ∧ j < m ∧ d.parent? j = some parent
  ascending_roots : ps.Pairwise (· < ·)
  parents : ∀ j, i ≤ j → j < m →
    d.parent? j = some parent ∧ j ∈ ps ∨ ∃ q, d.parent? j = some q ∧ j ∈ d.children q
  children : ∀ k, i ≤ k → k < m → ∀ j ∈ d.children k, d.parent? j = some k
  ascending : ∀ k, i ≤ k → k < m → (d.children k).Pairwise (· < ·)
  covered : ∀ j, i ≤ j → j < m → ∃ r ∈ ps, r = j ∨ d.Below r j
  below_iff : ∀ k, i ≤ k → k < m → ∃ n, k + n < m ∧ ∀ j, d.Below k j ↔ k < j ∧ j ≤ k + n

variable {d : Document} {parent i m n : Nat} {ps qs : List Nat}

theorem below_iff_children {k j : Nat} :
    d.Below k j ↔ ∃ c ∈ d.children k, c = j ∨ d.Below c j := by
  unfold Below
  rw [Relation.TransGen.head'_iff]
  simp only [Relation.reflTransGen_iff_eq_or_transGen, eq_comm (a := j)]
  rfl

theorem Forest.nil (d : Document) (parent i : Nat) : Forest d parent i i [] where
  le := Nat.le_refl i
  roots := by simp
  ascending_roots := .nil
  parents := by omega
  children := by omega
  ascending := by omega
  covered := by omega
  below_iff := by omega

theorem Forest.append (h : Forest d parent i m ps) (h' : Forest d parent m n qs) :
    Forest d parent i n (ps ++ qs) := by
  have hle := h.le
  have hle' := h'.le
  refine ⟨by omega, ?_, ?_, ?_, ?_, ?_, ?_, ?_⟩
  · intro j hj
    rcases List.mem_append.1 hj with hj | hj
    · obtain ⟨hij, hjm, hq⟩ := h.roots j hj
      exact ⟨hij, by omega, hq⟩
    · obtain ⟨hmj, hjn, hq⟩ := h'.roots j hj
      exact ⟨by omega, hjn, hq⟩
  · refine List.pairwise_append.2 ⟨h.ascending_roots, h'.ascending_roots, fun a ha b hb => ?_⟩
    have ham := (h.roots a ha).2.1
    have hmb := (h'.roots b hb).1
    omega
  · intro j hij hjn
    rcases Nat.lt_or_ge j m with hjm | hmj
    · exact (h.parents j hij hjm).imp_left fun hj => ⟨hj.1, List.mem_append_left _ hj.2⟩
    · exact (h'.parents j hmj hjn).imp_left fun hj => ⟨hj.1, List.mem_append_right _ hj.2⟩
  · intro k hik hkn
    exact (Nat.lt_or_ge k m).elim (h.children k hik) fun hmk => h'.children k hmk hkn
  · intro k hik hkn
    exact (Nat.lt_or_ge k m).elim (h.ascending k hik) fun hmk => h'.ascending k hmk hkn
  · intro j hij hjn
    rcases Nat.lt_or_ge j m with hjm | hmj
    · obtain ⟨r, hr, hbelow⟩ := h.covered j hij hjm
      exact ⟨r, List.mem_append_left _ hr, hbelow⟩
    · obtain ⟨r, hr, hbelow⟩ := h'.covered j hmj hjn
      exact ⟨r, List.mem_append_right _ hr, hbelow⟩
  · intro k hik hkn
    rcases Nat.lt_or_ge k m with hkm | hmk
    · obtain ⟨l, hl, hbelow⟩ := h.below_iff k hik hkm
      exact ⟨l, by omega, hbelow⟩
    · exact h'.below_iff k hmk hkn

theorem Forest.below_parent_iff (h : Forest d i (i + 1) m ps) (hchildren : d.children i = ps) (j : Nat) :
    d.Below i j ↔ i < j ∧ j < m := by
  rw [below_iff_children, hchildren]
  constructor
  · intro hj
    obtain ⟨c, hc, hj⟩ := hj
    obtain ⟨hic, hcm, -⟩ := h.roots c hc
    rcases hj with rfl | hj
    · exact ⟨hic, hcm⟩
    · obtain ⟨l, hl, hbelow⟩ := h.below_iff c hic hcm
      have hcj := (hbelow j).1 hj
      omega
  · intro hj
    exact h.covered j hj.1 hj.2

theorem Forest.node (h : Forest d i (i + 1) m ps) (hparent : d.parent? i = some parent)
    (hchildren : d.children i = ps) : Forest d parent i m [i] := by
  have hle := h.le
  refine ⟨by omega, ?_, List.pairwise_singleton _ _, ?_, ?_, ?_, ?_, ?_⟩
  · intro j hj
    obtain rfl := List.mem_singleton.1 hj
    exact ⟨Nat.le_refl j, by omega, hparent⟩
  · intro j hij hjm
    rcases Nat.eq_or_lt_of_le hij with rfl | hij
    · exact .inl ⟨hparent, List.mem_singleton_self i⟩
    · rcases h.parents j hij hjm with ⟨hj, hroot⟩ | hj
      · exact .inr ⟨i, hj, hchildren ▸ hroot⟩
      · exact .inr hj
  · intro k hik hkm
    rcases Nat.eq_or_lt_of_le hik with rfl | hik
    · intro j hj
      exact (h.roots j (hchildren ▸ hj)).2.2
    · exact h.children k hik hkm
  · intro k hik hkm
    rcases Nat.eq_or_lt_of_le hik with rfl | hik
    · exact hchildren ▸ h.ascending_roots
    · exact h.ascending k hik hkm
  · intro j hij hjm
    refine ⟨i, List.mem_singleton_self i, (Nat.eq_or_lt_of_le hij).imp_right fun hij => ?_⟩
    exact (h.below_parent_iff hchildren j).2 ⟨hij, hjm⟩
  · intro k hik hkm
    rcases Nat.eq_or_lt_of_le hik with rfl | hik
    · refine ⟨m - 1 - i, by omega, fun j => ?_⟩
      rw [h.below_parent_iff hchildren]
      omega
    · exact h.below_iff k hik hkm

theorem node?_of_nodes {before after : List Element} {e : Element}
    (h : d.nodes.toList = before ++ e :: after) : d.node? before.length = some e := by
  rw [node?, ← Array.getElem?_toList, h]
  simp

mutual
theorem forest_layout (x : Item) {parent : Nat} {before after : List Element}
    (h : d.nodes.toList = before ++ x.layout parent before.length ++ after) :
    Forest d parent before.length (before.length + x.count)
      (if x.isElement then [before.length] else []) := by
  cases x with
  | empty name attributes =>
    have hnode := node?_of_nodes (h.trans (List.append_assoc _ _ _))
    exact (Forest.nil d _ _).node (by simp [parent?, hnode]) (by simp [children, hnode])
  | element name attributes content =>
    have hnode := node?_of_nodes (h.trans (List.append_assoc _ _ _))
    let e : Element := ⟨name, attributes, leadText content, some parent, places (before.length + 1) content⟩
    have hlength : (before ++ [e]).length = before.length + 1 := by simp
    have hrow : d.nodes.toList = (before ++ [e]) ++
        layoutOf before.length (before ++ [e]).length content ++ after := by
      rw [h, layout, hlength]
      simp [e]
    have hcontent := forest_layoutOf content hrow
    rw [hlength] at hcontent
    rw [count, ← Nat.add_assoc]
    exact hcontent.node (by simp [parent?, hnode]) (by simp [children, hnode])
  | _ => exact Forest.nil d _ _

theorem forest_layoutOf (items : List Item) {parent : Nat} {before after : List Element}
    (h : d.nodes.toList = before ++ layoutOf parent before.length items ++ after) :
    Forest d parent before.length (before.length + countOf items) (places before.length items) := by
  cases items with
  | nil => exact Forest.nil d _ _
  | cons x rest =>
    have hlength : (before ++ x.layout parent before.length).length = before.length + x.count := by
      rw [List.length_append, length_layout]
    have hfirst : d.nodes.toList = before ++ x.layout parent before.length ++
        (layoutOf parent (before.length + x.count) rest ++ after) := by
      rw [h, layoutOf]
      simp
    have hrest : d.nodes.toList = (before ++ x.layout parent before.length) ++
        layoutOf parent (before ++ x.layout parent before.length).length rest ++ after := by
      rw [h, layoutOf, hlength]
      simp
    have hforest := forest_layoutOf rest hrest
    rw [hlength] at hforest
    rw [countOf, ← Nat.add_assoc]
    exact (forest_layout x hfirst).append hforest
end

theorem forest_ofRoot {root : Item} (hroot : root.isElement = true) :
    Forest (ofRoot root) origin 1 (ofRoot root).nodes.size [1] := by
  have hrow : (ofRoot root).nodes.toList = [⟨"", [], "", none, [1]⟩] ++ root.layout origin 1 ++ [] := by
    simp [ofRoot, origin]
  have hsize : (ofRoot root).nodes.size = 1 + root.count := by
    simp [ofRoot, length_layout, Nat.add_comm]
  have hforest := forest_layout root hrow
  rw [hroot] at hforest
  rw [hsize]
  exact hforest

theorem Forest.inDocumentOrder (h : Forest d origin 1 d.nodes.size [1])
    (hchildren : d.children origin = [1]) (hparent : d.parent? origin = none) : d.InDocumentOrder := by
  have hsize := h.le
  have houtside : ∀ j, d.nodes.size ≤ j → d.node? j = none := by
    intro j hj
    simpa [node?] using hj
  have hnodes : ∀ j, j = origin ∨ 1 ≤ j ∧ j < d.nodes.size ∨ d.node? j = none := by
    intro j
    rcases Nat.lt_or_ge j d.nodes.size with hj | hj
    · unfold origin
      omega
    · exact .inr (.inr (houtside j hj))
  refine ⟨hchildren, ?_, ?_, ?_⟩
  · intro i j
    constructor
    · intro hj
      rcases hnodes i with rfl | ⟨hi, him⟩ | hi
      · exact (h.roots j (hchildren ▸ hj)).2.2
      · exact h.children i hi him j hj
      · simp [Document.children, hi] at hj
    · intro hj
      rcases hnodes j with rfl | ⟨hij, hjm⟩ | hnone
      · simp [hparent] at hj
      · rcases h.parents j hij hjm with ⟨hq, hroot⟩ | ⟨q, hq, hmem⟩
        · obtain rfl := Option.some_inj.1 (hq.symm.trans hj)
          exact hchildren ▸ hroot
        · obtain rfl := Option.some_inj.1 (hq.symm.trans hj)
          exact hmem
      · simp [parent?, hnone] at hj
  · intro i
    rcases hnodes i with rfl | ⟨hi, him⟩ | hi
    · exact hchildren ▸ h.ascending_roots
    · exact h.ascending i hi him
    · simp [Document.children, hi]
  · intro i him
    rcases Nat.eq_zero_or_pos i with hi | hi
    · obtain rfl : i = origin := hi
      refine ⟨d.nodes.size - 1, fun j => ?_⟩
      rw [h.below_parent_iff hchildren]
      unfold origin
      omega
    · obtain ⟨n, -, hbelow⟩ := h.below_iff i hi him
      exact ⟨n, hbelow⟩

theorem inDocumentOrder_ofRoot {root : Item} (hroot : root.isElement = true) :
    (ofRoot root).InDocumentOrder :=
  (forest_ofRoot hroot).inDocumentOrder rfl rfl

theorem inDocumentOrder_of_ofEvents {es : List Event} (h : ofEvents es = .ok d) : d.InDocumentOrder := by
  obtain ⟨before, root, after, hroot, hblank, rfl⟩ := exists_of_ofEvents h
  rw [ofEvents_eventsOf hroot hblank] at h
  obtain rfl := Except.ok.inj h
  exact inDocumentOrder_ofRoot hroot

/-- Events are accepted exactly if they are those of one element with blanks around it, and then the
document is that element laid out as a tree in document order. -/
theorem ofEvents_eq_ofRoot_iff (es : List Event) (d : Document) :
    (ofEvents es = .ok d ↔
      ∃ (before : List Item) (root : Item) (after : List Item),
        es = eventsOf (before ++ root :: after) ∧ root.isElement = true ∧
        (∀ x ∈ before ++ after, x.isBlank = true) ∧ d = ofRoot root) ∧
    (ofEvents es = .ok d → d.InDocumentOrder) := by
  refine ⟨?_, inDocumentOrder_of_ofEvents⟩
  constructor
  · intro h
    obtain ⟨before, root, after, hroot, hblank, rfl⟩ := exists_of_ofEvents h
    rw [ofEvents_eventsOf hroot hblank] at h
    exact ⟨before, root, after, rfl, hroot, hblank, (Except.ok.inj h).symm⟩
  · intro h
    obtain ⟨before, root, after, rfl, hroot, hblank, rfl⟩ := h
    exact ofEvents_eventsOf hroot hblank

theorem ofEvents_eq_ofRoot_of_two_elements :
    ofEvents [.other, .start ⟨"a", some []⟩, .text (some "x"), .empty ⟨"b", some []⟩,
        .text (some "y"), .finish] =
      .ok (ofRoot (.element "a" [] [.text "x", .empty "b" [], .text "y"])) ∧
    (ofRoot (.element "a" [] [.text "x", .empty "b" [], .text "y"])).InDocumentOrder := by
  have h : ofEvents [.other, .start ⟨"a", some []⟩, .text (some "x"), .empty ⟨"b", some []⟩,
        .text (some "y"), .finish] =
      .ok (ofRoot (.element "a" [] [.text "x", .empty "b" [], .text "y"])) :=
    (ofEvents_eq_ofRoot_iff _ _).1.2 ⟨[.other], _, [], rfl, rfl, by simp [isBlank], rfl⟩
  exact ⟨h, (ofEvents_eq_ofRoot_iff _ _).2 h⟩

end Document
end StorePolicy.Xml

import StorePolicy.Proofs.Xml.Reach
import StorePolicy.Proofs.Xml.Rendering

/-!
# Elements of one name

All that is below a place is visited in document order, but what is found is put together by
parents: the first element with the name brings all its siblings with the name along. So elements of
one name are listed by the first of their siblings, and that is document order exactly if no
element with the name stands between two others that are siblings and is not their sibling.
-/
namespace StorePolicy.Xml

section Groups

variable {p i : Nat} {places : List Nat} {groups : List (Nat × List Nat)}

def heads (groups : List (Nat × List Nat)) : List Nat := groups.map fun g => g.2.headD 0

theorem heads_groupWith (p i : Nat) (h : ∀ g ∈ groups, g.2 ≠ []) :
    heads (groupWith p i groups) =
      if p ∈ groups.map (·.1) then heads groups else heads groups ++ [i] := by
  induction groups with
  | nil => rfl
  | cons entry rest ih =>
    obtain ⟨q, group⟩ := entry
    obtain ⟨hgroup, hrest⟩ := List.forall_mem_cons.1 h
    by_cases hq : q = p
    · have hhead : (group ++ [i]).headD 0 = group.headD 0 := by
        cases group with
        | nil => exact absurd rfl hgroup
        | cons j group => rfl
      simp only [groupWith, hq, if_true, heads, List.map_cons, List.mem_cons, true_or, hhead]
    · have hp : p ≠ q := fun h => hq h.symm
      have ih := ih hrest
      simp only [heads] at ih
      simp only [groupWith, hq, if_false, heads, List.map_cons, ih, List.mem_cons, hp, false_or]
      split <;> rfl

theorem ascending_heads (key : Nat → Nat) (h : places.Pairwise (· < ·)) :
    (heads (places.foldl (fun groups i => groupWith (key i) i groups) [])).Pairwise (· < ·) := by
  -- from the end, since a place opens a group only behind all places before it
  induction places using List.reverseRecOn with
  | nil => exact .nil
  | append_singleton places i ih =>
    obtain ⟨hplaces, -, hlast⟩ := List.pairwise_append.1 h
    have hgrouped := grouped_foldl key places
    have hne : ∀ g ∈ places.foldl (fun groups i => groupWith (key i) i groups) [], g.2 ≠ [] :=
      fun g hg => ((hgrouped.mem_iff g.1 g.2).1 hg).2
    rw [List.foldl_append, List.foldl_cons, List.foldl_nil, heads_groupWith _ _ hne]
    split
    · exact ih hplaces
    · refine List.pairwise_append.2 ⟨ih hplaces, List.pairwise_singleton _ _, fun j hj k hk => ?_⟩
      obtain ⟨g, hg, rfl⟩ := List.mem_map.1 hj
      obtain ⟨head, rest, hhead⟩ := List.exists_cons_of_ne_nil (hne g hg)
      have hmem : head ∈ places := by
        have hgroup := ((hgrouped.mem_iff g.1 g.2).1 hg).1
        have hfirst : head ∈ places.filter (key · = g.1) := by
          rw [← hgroup, hhead]
          exact List.mem_cons_self
        exact (List.mem_filter.1 hfirst).1
      rw [hhead]
      exact hlast head hmem k hk

theorem keepFirsts_sublist (seen places : List Nat) : (keepFirsts seen places).Sublist places := by
  induction places generalizing seen with
  | nil => exact .slnil
  | cons j places ih =>
    rw [keepFirsts]
    split
    · exact (ih seen).cons j
    · exact (ih _).cons_cons j

theorem find?_least {p : Nat → Bool} (h : places.Pairwise (· < ·)) (hi : i ∈ places)
    (hp : p i = true) :
    ∃ first, places.find? p = some first ∧ first ∈ places ∧ p first = true ∧ first ≤ i := by
  cases hfind : places.find? p with
  | none => exact absurd hp (List.find?_eq_none.1 hfind i hi)
  | some first =>
    refine ⟨first, rfl, List.mem_of_find?_eq_some hfind, List.find?_some hfind, ?_⟩
    obtain ⟨-, before, after, rfl, hbefore⟩ := List.find?_eq_some_iff_append.1 hfind
    rcases List.mem_append.1 hi with hi | hi
    · have hnone := hbefore i hi
      simp [hp] at hnone
    · rcases List.mem_cons.1 hi with rfl | hi
      · exact Nat.le_refl i
      · have hlater := (List.pairwise_cons.1 (List.pairwise_append.1 h).2.1).1 i hi
        omega

end Groups

namespace Document

variable {d : Document} {t : String} {i j k a b c : Nat} {found : List Nat}

def firstNamesake (d : Document) (t : String) (i : Nat) : Nat :=
  ((d.children ((d.parent? i).getD origin)).find? fun c => t == d.nameAt c).getD origin

/-- One place is listed before another: where their first siblings with the name stand, and among
siblings in order. -/
def ListedBefore (d : Document) (t : String) (i j : Nat) : Prop :=
  d.firstNamesake t i < d.firstNamesake t j ∨ d.firstNamesake t i = d.firstNamesake t j ∧ i < j

/-- Of three elements with the name in document order the outer two are siblings, and the one between
them is not. -/
structure Parted (d : Document) (t : String) (a b c : Nat) : Prop where
  between : a < b ∧ b < c
  names : d.nameAt a = t ∧ d.nameAt b = t ∧ d.nameAt c = t
  siblings : d.parent? a = d.parent? c
  stranger : d.parent? b ≠ d.parent? a

structure FindsNamed (d : Document) (t : String) (among : Nat → Prop) (found : List Nat) : Prop where
  nodup : found.Nodup
  mem_iff : ∀ j, j ∈ found ↔ among j ∧ d.nameAt j = t
  listed : found.Pairwise (d.ListedBefore t)
  ascending_iff : found.Pairwise (· < ·) ↔ ∀ a b c, ¬d.Parted t a b c

theorem firstNamesake_of_mem (hj : d.parent? j = some k) :
    d.firstNamesake t j = ((d.children k).find? fun c => t == d.nameAt c).getD origin := by
  rw [firstNamesake, hj, Option.getD_some]

theorem InDocumentOrder.firstNamesake_spec (hd : d.InDocumentOrder) (hj : j ∈ d.children k)
    (hname : d.nameAt j = t) :
    d.firstNamesake t j ∈ d.children k ∧ d.nameAt (d.firstNamesake t j) = t ∧
      d.firstNamesake t j ≤ j := by
  have hp : (t == d.nameAt j) = true := by simp [hname]
  obtain ⟨first, hfind, hmem, hfirst, hle⟩ :=
    find?_least (p := fun c => t == d.nameAt c) (hd.ascending k) hj hp
  rw [firstNamesake_of_mem ((hd.mem_children_iff k j).1 hj), hfind, Option.getD_some]
  exact ⟨hmem, (beq_iff_eq.1 hfirst).symm, hle⟩

theorem InDocumentOrder.of_mem_groups (hd : d.InDocumentOrder) {test : Nat → Bool} {group : List Nat}
    (h : group ∈ groupByParent d ((d.descendants i).filter test)) :
    group ≠ [] ∧ ∃ k, group = (d.children k).filter test := by
  obtain ⟨hne, k, rfl⟩ := mem_groupByParent_iff.1 h
  obtain ⟨c, hc⟩ := List.exists_mem_of_ne_nil _ hne
  obtain ⟨hc, hparent⟩ := List.mem_filter.1 hc
  have hk := (hd.mem_descendants_of_parent_iff.1
    ⟨(List.mem_filter.1 hc).1, of_decide_eq_true hparent⟩).1
  exact ⟨hne, k, hd.group_descendants test hk⟩

def namedBelow (d : Document) (t : String) (i : Nat) : List Nat :=
  keepFirsts [] ((PathStep.descendant (.name t) []).select d i)

theorem InDocumentOrder.mem_namedBelow_iff (hd : d.InDocumentOrder) :
    j ∈ d.namedBelow t i ↔ d.Below i j ∧ d.nameAt j = t := by
  have hps : ∀ p ∈ (PathStep.descendant (.name t) []).predicates, p.Countable := by
    simp [PathStep.predicates]
  rw [namedBelow, mem_keepFirsts_iff, PathStep.mem_select_iff hd hps, PathStep.Relates,
    below_iff_parent]
  simp only [PathStep.childrenSelected, Predicate.passing, NameTest.accepts, Set.mem_ofPred_eq,
    beq_iff_eq, List.not_mem_nil, not_false_eq_true, and_true]
  constructor
  · rintro ⟨k, hk, hj, rfl⟩
    exact ⟨⟨k, hk, hj⟩, rfl⟩
  · rintro ⟨⟨k, hk, hj⟩, rfl⟩
    exact ⟨k, hk, hj, rfl⟩

theorem InDocumentOrder.listed_namedBelow (hd : d.InDocumentOrder) (t : String) (i : Nat) :
    (d.namedBelow t i).Pairwise (d.ListedBefore t) := by
  have hgroup : ∀ group ∈ groupByParent d ((d.descendants i).filter fun c => t == d.nameAt c),
      group.Pairwise (· < ·) ∧ ∀ j ∈ group, d.firstNamesake t j = group.headD 0 := by
    intro group hgroup
    obtain ⟨-, k, rfl⟩ := hd.of_mem_groups hgroup
    refine ⟨(hd.ascending k).filter _, fun j hj => ?_⟩
    have hparent := (hd.mem_children_iff k j).1 (List.mem_filter.1 hj).1
    rw [firstNamesake_of_mem hparent, List.headD_eq_head?_getD, List.head?_filter]
    rfl
  have hheads := ascending_heads (fun i => (d.parent? i).getD origin)
    ((hd.ascending_descendants i).filter fun c => t == d.nameAt c)
  refine List.Pairwise.sublist (keepFirsts_sublist _ _) ?_
  refine List.pairwise_flatMap.2 ⟨fun group hmem => ?_, ?_⟩
  · obtain ⟨hascending, hfirst⟩ := hgroup group hmem
    refine hascending.imp_of_mem fun hj hk hlt => .inr ⟨?_, hlt⟩
    rw [hfirst _ hj, hfirst _ hk]
  · have hgroups : (groupByParent d ((d.descendants i).filter fun c => t == d.nameAt c)).Pairwise
        fun group group' => group.headD 0 < group'.headD 0 := by
      rw [groupByParent, List.pairwise_map]
      exact List.pairwise_map.1 hheads
    refine hgroups.imp_of_mem fun hmem hmem' hlt j hj k hk => .inl ?_
    rwa [(hgroup _ hmem).2 j hj, (hgroup _ hmem').2 k hk]

theorem firstNamesake_of_siblings (h : d.parent? i = d.parent? j) :
    d.firstNamesake t i = d.firstNamesake t j := by
  rw [firstNamesake, firstNamesake, h]

theorem InDocumentOrder.parent?_firstNamesake (hd : d.InDocumentOrder) (hj : j ∈ d.children k)
    (hname : d.nameAt j = t) : d.parent? (d.firstNamesake t j) = d.parent? j := by
  rw [(hd.mem_children_iff k j).1 hj]
  exact (hd.mem_children_iff k _).1 (hd.firstNamesake_spec hj hname).1

theorem firstNamesake_le_of_ascending (hlisted : found.Pairwise (d.ListedBefore t))
    (hascending : found.Pairwise (· < ·)) (hi : i ∈ found) (hj : j ∈ found) (hij : i < j) :
    d.firstNamesake t i ≤ d.firstNamesake t j := by
  have hle : found.Pairwise fun i j => i < j → d.firstNamesake t i ≤ d.firstNamesake t j := by
    refine hlisted.imp fun hij _ => ?_
    rcases hij with hlt | ⟨heq, -⟩
    · exact hlt.le
    · exact heq.le
  have hflip : found.Pairwise fun i j => j < i → d.firstNamesake t j ≤ d.firstNamesake t i :=
    hascending.imp fun hij hji => absurd hji (Nat.lt_asymm hij)
  exact List.Pairwise.forall_of_forall_of_flip (fun i _ hii => absurd hii (Nat.lt_irrefl i)) hle
    hflip hi hj hij

theorem InDocumentOrder.parted_of_listed_late (hd : d.InDocumentOrder) (hj : j ∈ d.children a)
    (hk : k ∈ d.children b) (hjname : d.nameAt j = t) (hkname : d.nameAt k = t)
    (hlisted : d.firstNamesake t j < d.firstNamesake t k) (hlate : k ≤ j) :
    d.Parted t (d.firstNamesake t j) k j := by
  have hparent := hd.parent?_firstNamesake hj hjname
  have hkfirst := (hd.firstNamesake_spec hk hkname).2.2
  have hne : k ≠ j := by
    rintro rfl
    omega
  refine ⟨⟨by omega, by omega⟩, ⟨(hd.firstNamesake_spec hj hjname).2.1, hkname, hjname⟩, hparent,
    fun hsame => ?_⟩
  have heq : d.firstNamesake t k = d.firstNamesake t j :=
    firstNamesake_of_siblings (hsame.trans hparent)
  omega

/-- A list of elements by their siblings is in document order exactly if no elements are parted, as
long as the list holds all that are. -/
theorem InDocumentOrder.ascending_iff_of_listed (hd : d.InDocumentOrder)
    (hlisted : found.Pairwise (d.ListedBefore t))
    (hfound : ∀ j ∈ found, d.nameAt j = t ∧ ∃ k, j ∈ d.children k)
    (hparted : ∀ a b c, d.Parted t a b c → a ∈ found ∧ b ∈ found ∧ c ∈ found) :
    found.Pairwise (· < ·) ↔ ∀ a b c, ¬d.Parted t a b c := by
  constructor
  · intro hascending a b c h
    obtain ⟨ha, hb, hc⟩ := hparted a b c h
    have hab := firstNamesake_le_of_ascending hlisted hascending ha hb h.between.1
    have hbc := firstNamesake_le_of_ascending hlisted hascending hb hc h.between.2
    have hac : d.firstNamesake t a = d.firstNamesake t c := firstNamesake_of_siblings h.siblings
    have heq : d.firstNamesake t b = d.firstNamesake t a := by omega
    obtain ⟨-, p, hp⟩ := hfound a ha
    obtain ⟨-, q, hq⟩ := hfound b hb
    refine h.stranger ?_
    rw [← hd.parent?_firstNamesake hq h.names.2.1, heq, hd.parent?_firstNamesake hp h.names.1]
  · intro hnone
    refine hlisted.imp_of_mem fun {j k} hj hk hjk => ?_
    rcases hjk with hlt | ⟨-, hlt⟩
    · by_contra hge
      obtain ⟨hjname, p, hp⟩ := hfound j hj
      obtain ⟨hkname, q, hq⟩ := hfound k hk
      exact hnone _ k j
        (hd.parted_of_listed_late hp hq hjname hkname hlt (Nat.le_of_not_lt hge))
    · exact hlt

theorem below_origin_iff {es : List Event} (h : ofEvents es = .ok d) :
    d.Below origin j ↔ (d.element? j).isSome := by
  obtain ⟨before, root, after, hroot, hblank, rfl⟩ := exists_of_ofEvents h
  rw [ofEvents_eventsOf hroot hblank] at h
  obtain rfl := Except.ok.inj h
  rw [(forest_ofRoot hroot).below_parent_iff rfl, isSome_element?_iff]
  unfold origin
  omega

theorem lt_size_of_nameAt (h : d.nameAt j ≠ "") : j < d.nodes.size := by
  by_contra hout
  exact h (by simp [nameAt, node?, Nat.le_of_not_lt hout])

section Read

variable {es : List Event} (hread : ofEvents es = .ok d)

include hread

theorem below_root (hj : 1 < j) (hname : d.nameAt j ≠ "") : d.Below 1 j := by
  have hsome : (d.element? j).isSome := by
    rw [isSome_element?_iff]
    refine ⟨?_, lt_size_of_nameAt hname⟩
    unfold origin
    omega
  have hbelow := (below_origin_iff hread).2 hsome
  rw [below_iff_children, (inDocumentOrder_of_ofEvents hread).children_origin] at hbelow
  obtain ⟨root, hroot, hbelow⟩ := hbelow
  obtain rfl := List.mem_singleton.1 hroot
  rcases hbelow with rfl | hbelow
  · exact absurd hj (Nat.lt_irrefl 1)
  · exact hbelow

theorem Parted.root_lt (ht : t ≠ "") (h : d.Parted t a b c) : 1 < a := by
  have hd := inDocumentOrder_of_ofEvents hread
  have hc : 0 < c := Nat.lt_of_le_of_lt (Nat.zero_le a) (h.between.1.trans h.between.2)
  have hsome : (d.element? c).isSome :=
    isSome_element?_iff.2 ⟨hc.ne', lt_size_of_nameAt (h.names.2.2 ▸ ht)⟩
  obtain ⟨p, -, hp⟩ := below_iff_parent.1 ((below_origin_iff hread).2 hsome)
  have hparent := (hd.mem_children_iff p c).1 hp
  have ha : a ∈ d.children p := (hd.mem_children_iff p a).2 (h.siblings.trans hparent)
  have hpa := hd.lt_of_mem_children ha
  by_contra hle
  obtain rfl : p = origin := by
    unfold origin
    omega
  rw [hd.children_origin] at ha hp
  have hac := h.between.1.trans h.between.2
  rw [List.mem_singleton.1 ha, List.mem_singleton.1 hp] at hac
  exact Nat.lt_irrefl 1 hac

theorem findsNamed_namedBelow (ht : t ≠ "") (hi : i ≤ 1) :
    d.FindsNamed t (d.Below i) (d.namedBelow t i) := by
  have hd := inDocumentOrder_of_ofEvents hread
  have hlisted := hd.listed_namedBelow t i
  refine ⟨nodup_keepFirsts _ _, fun _ => hd.mem_namedBelow_iff, hlisted, ?_⟩
  refine hd.ascending_iff_of_listed hlisted (fun j hj => ?_) fun a b c h => ?_
  · obtain ⟨hbelow, hname⟩ := hd.mem_namedBelow_iff.1 hj
    obtain ⟨k, -, hk⟩ := below_iff_parent.1 hbelow
    exact ⟨hname, k, hk⟩
  · have hroot : d.Below i 1 ∨ i = 1 := by
      rcases Nat.le_one_iff_eq_zero_or_eq_one.1 hi with rfl | rfl
      · exact .inl (.single (by rw [HasChild]; exact hd.children_origin ▸ List.mem_singleton_self 1))
      · exact .inr rfl
    have hmem : ∀ j, 1 < j → d.nameAt j = t → j ∈ d.namedBelow t i := by
      intro j hj hname
      have hbelow := below_root hread hj (hname ▸ ht)
      refine hd.mem_namedBelow_iff.2 ⟨?_, hname⟩
      rcases hroot with hroot | rfl
      · exact hroot.trans hbelow
      · exact hbelow
    have ha := h.root_lt hread ht
    have hb := ha.trans h.between.1
    exact ⟨hmem a ha h.names.1, hmem b hb h.names.2.1, hmem c (hb.trans h.between.2) h.names.2.2⟩

end Read

theorem exists_quoting : ∃ quote, Quoting quote := by
  classical
  refine ⟨fun v => if h : ∃ q, Delimits q v then h.choose else '"', fun q v hq => ?_⟩
  have h : ∃ q, Delimits q v := ⟨q, hq⟩
  simp only [dif_pos h]
  exact h.choose_spec

theorem compile_named_below (ht : IsName t) :
    ElementPath.compile (".//" ++ t) = .ok ⟨".//" ++ t, false, [.self, .descendant (.name t) []]⟩ ∧
    ElementPath.compile ("//" ++ t) = .ok ⟨"//" ++ t, true, [.descendant (.name t) []]⟩ := by
  obtain ⟨quote, hquote⟩ := exists_quoting
  have hbelow : WellFormedPath false [.self, .descendant (.name t) []] := by
    refine ⟨by simp, by simp [PathStep.isBelow], ?_⟩
    simp [PathStep.WellFormed, NameTest.WellFormed, ht]
  have hall : WellFormedPath true [.descendant (.name t) []] := by
    refine ⟨by simp, by simp, ?_⟩
    simp [PathStep.WellFormed, NameTest.WellFormed, ht]
  have htext : renderPath quote false [.self, .descendant (.name t) []] = ".//" ++ t := by
    rw [← String.toList_inj]
    simp [renderPath, PathStep.renderAfterSlash, PathStep.render, NameTest.render,
      renderPredicates, PathStep.isBelow]
  have htext' : renderPath quote true [.descendant (.name t) []] = "//" ++ t := by
    rw [← String.toList_inj]
    simp [renderPath, PathStep.renderAfterSlash, PathStep.render, NameTest.render,
      renderPredicates, PathStep.isBelow]
  have hcompile := compile_render hquote hbelow
  have hcompile' := compile_render hquote hall
  rw [htext] at hcompile
  rw [htext'] at hcompile'
  exact ⟨hcompile, hcompile'⟩

theorem InDocumentOrder.filter_namedBelow (hd : d.InDocumentOrder) (t : String) (i : Nat) :
    (d.namedBelow t i).filter (· ≠ origin) = d.namedBelow t i := by
  refine List.filter_eq_self.2 fun j hj => ?_
  have hlt := hd.lt_of_below (hd.mem_namedBelow_iff.1 hj).1
  have hne : j ≠ origin := Nat.ne_of_gt (Nat.lt_of_le_of_lt (Nat.zero_le i) hlt)
  simpa using hne

theorem InDocumentOrder.find_below_root (hd : d.InDocumentOrder) (hroot : d.children origin = [i])
    (source : String) :
    d.find ⟨source, false, [.self, .descendant (.name t) []]⟩ = d.namedBelow t i := by
  have hself : PathStep.self.apply d [i] = [i] := by
    simp [PathStep.apply, PathStep.select, keepFirsts]
  have hstep : (PathStep.descendant (.name t) []).apply d [i] = d.namedBelow t i := by
    rw [PathStep.apply, List.flatMap_singleton, namedBelow]
  simp only [find, rootPlace?, hroot, Bool.false_eq_true, if_false, List.head?_cons,
    Option.toList_some, List.foldl_cons, List.foldl_nil, hself, hstep]
  exact hd.filter_namedBelow t i

theorem InDocumentOrder.find_everywhere (hd : d.InDocumentOrder) (source : String) :
    d.find ⟨source, true, [.descendant (.name t) []]⟩ = d.namedBelow t origin := by
  have hstep : (PathStep.descendant (.name t) []).apply d [origin] = d.namedBelow t origin := by
    rw [PathStep.apply, List.flatMap_singleton, namedBelow]
  simp only [find, if_true, List.foldl_cons, List.foldl_nil, hstep]
  exact hd.filter_namedBelow t origin

/-- The elements of one name below the root, and those of the whole document, are all found, each
once and by their siblings. They stand in document order exactly if none of them are parted. -/
theorem named_in_order_iff {es : List Event} (hread : ofEvents es = .ok d) (ht : IsName t) :
    ∃ root below all, d.children origin = [root] ∧
      ElementPath.compile (".//" ++ t) = .ok below ∧ ElementPath.compile ("//" ++ t) = .ok all ∧
      d.FindsNamed t (d.Below root) (d.find below) ∧
      d.FindsNamed t (fun j => (d.element? j).isSome) (d.find all) := by
  have hd := inDocumentOrder_of_ofEvents hread
  have hne : t ≠ "" := fun h => ht.1.1 (h ▸ rfl)
  obtain ⟨hbelow, hall⟩ := compile_named_below ht
  refine ⟨1, _, _, hd.children_origin, hbelow, hall, ?_, ?_⟩
  · rw [hd.find_below_root hd.children_origin]
    exact findsNamed_namedBelow hread hne (Nat.le_refl 1)
  · rw [hd.find_everywhere]
    have hfound := findsNamed_namedBelow hread hne (Nat.zero_le 1)
    exact ⟨hfound.nodup, fun j => by rw [← below_origin_iff hread]; exact hfound.mem_iff j,
      hfound.listed, hfound.ascending_iff⟩

theorem named_in_order_of_nested_elements :
    let d := ofRoot (.element "r" [] [.empty "t" [], .element "t" [] [.empty "t" []]])
    let es : List Event := [.start ⟨"r", some []⟩, .empty ⟨"t", some []⟩, .start ⟨"t", some []⟩,
      .empty ⟨"t", some []⟩, .finish, .finish]
    ofEvents es = .ok d ∧ IsName "t" ∧
    ∃ root below all, d.children origin = [root] ∧
      ElementPath.compile ".//t" = .ok below ∧ ElementPath.compile "//t" = .ok all ∧
      d.FindsNamed "t" (d.Below root) (d.find below) ∧
      d.FindsNamed "t" (fun j => (d.element? j).isSome) (d.find all) := by
  intro d es
  have hread : ofEvents es = .ok d := rfl
  have hname : IsName "t" := ⟨⟨by decide, List.all_eq_true.1 (by decide)⟩, by decide, by decide⟩
  have hbelow : ".//" ++ "t" = ".//t" := by decide
  have hall : "//" ++ "t" = "//t" := by decide
  have hfound := named_in_order_iff hread hname
  rw [hbelow, hall] at hfound
  exact ⟨hread, hname, hfound⟩

/-- An element inside of the first of two namesakes is found behind the second. -/
theorem named_out_of_order :
    let d := ofRoot (.element "r" [] [.element "t" [] [.empty "t" []], .empty "t" []])
    ofEvents [.start ⟨"r", some []⟩, .start ⟨"t", some []⟩, .empty ⟨"t", some []⟩, .finish,
        .empty ⟨"t", some []⟩, .finish] = .ok d ∧
    ElementPath.compile ".//t" = .ok ⟨".//t", false, [.self, .descendant (.name "t") []]⟩ ∧
    ElementPath.compile "//t" = .ok ⟨"//t", true, [.descendant (.name "t") []]⟩ ∧
    d.descendants 1 = [2, 3, 4] ∧
    d.find ⟨".//t", false, [.self, .descendant (.name "t") []]⟩ = [2, 4, 3] ∧
    d.find ⟨"//t", true, [.descendant (.name "t") []]⟩ = [2, 4, 3] :=
  ⟨rfl, by decide, by decide, by decide, by decide, by decide⟩

end Document
end StorePolicy.Xml

import StorePolicy.Proofs.Path.DocumentOrder

/-!
# Matches out of order

After a descent, a segment that takes anything but the first position selects out of order in some
document: in one where it takes a value that stands late, and where the path leads on into what
stands before it. A second descent selects twice what is below both its starting points. So
the paths whose matches are always in the order of the document are exactly those that keep it.
-/
namespace StorePolicy.Path

open Json

variable {s : Segment} {ss rest : List Segment} {j v first later : Json} {p q : Place} {a b : Bool}

section Wrap

/-- A value around another one, from which the segment leads to it; all else in it is null. -/
def Segment.wrap : Segment → Json → Json
  | .key name, j => .obj [(name, j)]
  | .index n, j =>
    if n < 0 then .arr (j :: List.replicate (-n - 1).toNat .null)
    else .arr (List.replicate n.toNat .null ++ [j])
  | .all, j => .arr [j]
  | .descend inner, j => inner.wrap j

def wrapAll (ss : List Segment) (j : Json) : Json := ss.foldr Segment.wrap j

theorem mem_select_wrap (s : Segment) (j : Json) : j ∈ s.select (s.wrap j) := by
  induction s with
  | key name => simp [Segment.select, Segment.wrap, get?, members?]
  | index n =>
    rw [Segment.select_eq_picks, Segment.wrap]
    by_cases hn : n < 0 <;> simp [Segment.picks, hn]
  | all => exact List.mem_singleton_self j
  | descend inner ih =>
    rw [Segment.select_descend]
    exact List.mem_flatMap.2 ⟨_, mem_subvalues_self _, ih⟩

theorem selectAll_sublist (ss : List Segment) (j : Json) :
    (Segment.selectAll rest [j]).Sublist (Segment.selectAll (ss ++ rest) [wrapAll ss j]) := by
  induction ss with
  | nil => exact List.Sublist.refl _
  | cons s ss ih =>
    have hwrap : wrapAll (s :: ss) j = s.wrap (wrapAll ss j) := rfl
    rw [List.cons_append, hwrap, selectAll_cons, selectAll_eq_flatMap (ss ++ rest)]
    refine ih.trans ?_
    simpa using (List.singleton_sublist.2 (mem_select_wrap s (wrapAll ss j))).flatMap
      fun j => Segment.selectAll (ss ++ rest) [j]

theorem exists_children_wrap (s : Segment) : ∃ n m, ∀ j,
    children (s.wrap j) = List.replicate n .null ++ j :: List.replicate m .null := by
  induction s with
  | key name => exact ⟨0, 0, fun _ => rfl⟩
  | index n =>
    by_cases hn : n < 0
    · exact ⟨0, (-n - 1).toNat, fun j => by simp [Segment.wrap, hn, children]⟩
    · exact ⟨n.toNat, 0, fun j => by simp [Segment.wrap, hn, children]⟩
  | all => exact ⟨0, 0, fun _ => rfl⟩
  | descend inner ih => exact ih

theorem wrap_ne_bool (s : Segment) (j : Json) (b : Bool) : s.wrap j ≠ .bool b := by
  induction s with
  | index n => by_cases hn : n < 0 <;> simp [Segment.wrap, hn]
  | descend inner ih => exact ih
  | _ => simp [Segment.wrap]

theorem held_wrap (s : Segment) (hj : held j = true) : held (s.wrap j) = true := by
  induction s with
  | key name => simp [Segment.wrap, held, heldMembers, ascending, hj]
  | index n =>
    by_cases hn : n < 0 <;>
    · simp only [Segment.wrap, hn, if_true, if_false, held, heldItems_iff, List.mem_cons,
        List.mem_append, List.mem_replicate]
      rintro c (h | h) <;> simp_all [held]
  | all => simp [Segment.wrap, held, heldItems, hj]
  | descend inner ih => exact ih

theorem held_wrapAll (ss : List Segment) (hj : held j = true) : held (wrapAll ss j) = true := by
  induction ss with
  | nil => exact hj
  | cons s ss ih => exact held_wrap s ih

end Wrap

section Truths

def OnlyTruth (b : Bool) (j : Json) : Prop := ∀ p a, valueAt? j p = some (.bool a) → a = b

/-- In the order of the document no `a` comes before a `b`. -/
def NeverBefore (a b : Bool) (j : Json) : Prop :=
  ∀ p q, valueAt? j p = some (.bool a) → valueAt? j q = some (.bool b) → ¬p.Before q

theorem valueAt?_bool (hj : j ≠ .bool b) (h : valueAt? j p = some (.bool b)) :
    ∃ i q c, p = i :: q ∧ (children j)[i]? = some c ∧ valueAt? c q = some (.bool b) := by
  cases p with
  | nil => exact absurd (Option.some.inj h) hj
  | cons i q =>
    obtain ⟨c, hc, hq⟩ := Option.bind_eq_some_iff.1 h
    exact ⟨i, q, c, rfl, hc, hq⟩

theorem not_valueAt?_null : valueAt? .null p ≠ some (.bool b) := by
  cases p <;> simp [valueAt?, children]

theorem eq_of_getElem?_padded {n m i : Nat} {c : Json}
    (h : (List.replicate n Json.null ++ j :: List.replicate m Json.null)[i]? = some c) :
    c = .null ∨ i = n ∧ c = j := by
  rw [List.getElem?_append, List.length_replicate] at h
  split at h
  · exact .inl (List.eq_of_mem_replicate (List.mem_of_getElem? h))
  · cases hi : i - n with
    | zero =>
      rw [hi, List.getElem?_cons_zero] at h
      exact .inr ⟨by omega, (Option.some.inj h).symm⟩
    | succ k =>
      rw [hi, List.getElem?_cons_succ] at h
      exact .inl (List.eq_of_mem_replicate (List.mem_of_getElem? h))

theorem exists_position_wrap (s : Segment) : ∃ n, ∀ j p b, valueAt? (s.wrap j) p = some (.bool b) →
    ∃ q, p = n :: q ∧ valueAt? j q = some (.bool b) := by
  obtain ⟨n, m, hchildren⟩ := exists_children_wrap s
  refine ⟨n, fun j p b h => ?_⟩
  obtain ⟨i, q, c, rfl, hc, hq⟩ := valueAt?_bool (wrap_ne_bool s j b) h
  rw [hchildren] at hc
  obtain rfl | ⟨rfl, rfl⟩ := eq_of_getElem?_padded hc
  · exact absurd hq not_valueAt?_null
  · exact ⟨q, rfl, hq⟩

theorem OnlyTruth.wrapAll (ss : List Segment) (h : OnlyTruth b j) : OnlyTruth b (wrapAll ss j) := by
  induction ss with
  | nil => exact h
  | cons s ss ih =>
    obtain ⟨n, hposition⟩ := exists_position_wrap s
    intro p a hp
    obtain ⟨q, -, hq⟩ := hposition _ p a hp
    exact ih q a hq

theorem NeverBefore.wrap (s : Segment) (h : NeverBefore a b j) : NeverBefore a b (s.wrap j) := by
  obtain ⟨n, hposition⟩ := exists_position_wrap s
  intro p q hp hq hbefore
  obtain ⟨p, rfl, hp'⟩ := hposition j p a hp
  obtain ⟨q, rfl, hq'⟩ := hposition j q b hq
  rcases before_cons_iff.1 hbefore with hlt | ⟨-, hbefore⟩
  · exact Nat.lt_irrefl n hlt
  · exact h p q hp' hq' hbefore

theorem NeverBefore.wrapAll (ss : List Segment) (h : NeverBefore a b j) :
    NeverBefore a b (wrapAll ss j) := by
  induction ss with
  | nil => exact h
  | cons s ss ih => exact ih.wrap s

theorem onlyTruth_bool (b : Bool) : OnlyTruth b (.bool b) := by
  intro p a h
  cases p with
  | nil =>
    cases h
    rfl
  | cons i p => simp [valueAt?, children] at h

theorem neverBefore_bool (b : Bool) : NeverBefore b b (.bool b) := by
  intro p q hp hq
  cases q with
  | nil => exact not_before_nil
  | cons i q => simp [valueAt?, children] at hq

end Truths

section Late

/-- A value where the segment takes `later`, and where `first` stands before it. -/
def Segment.late (first later : Json) : Segment → Json
  | .key name => .obj [("", first), (name, later)]
  | .index n => .arr (first :: children ((index (if n < 0 then n else n - 1)).wrap later))
  | .all => .arr (first :: children (all.wrap later))
  | .descend _ => .arr [first]

def Segment.takesLater : Segment → Bool
  | .descend _ => false
  | s => !s.takesFirst

theorem mem_select_late (hs : s.takesLater = true) : later ∈ s.select (s.late first later) := by
  cases s with
  | key name =>
    have hname : name ≠ "" := by simpa [Segment.takesLater, Segment.takesFirst] using hs
    have hother : (name == "") = false := beq_false_of_ne hname
    simp [Segment.select, Segment.late, get?, members?, List.lookup_cons, hother]
  | index n =>
    have hzero : n ≠ 0 := by simpa [Segment.takesLater, Segment.takesFirst] using hs
    rw [Segment.select_eq_picks, Segment.late]
    by_cases hn : n < 0
    · simp [Segment.picks, Segment.wrap, children, hn]
    · obtain ⟨k, rfl⟩ : ∃ k : Nat, n = k + 1 := ⟨(n - 1).toNat, by omega⟩
      have hposition : ¬((k : Int) + 1 < 0) ∧ ¬((k : Int) < 0) := by omega
      simp [Segment.picks, Segment.wrap, children, hposition]
  | all => simp [Segment.select, Segment.late, Segment.wrap, children]
  | descend inner => cases hs

theorem mem_children_wrap {c : Json} (h : c ∈ children (s.wrap j)) : c = .null ∨ c = j := by
  obtain ⟨n, m, hchildren⟩ := exists_children_wrap s
  obtain ⟨i, hi⟩ := List.getElem?_of_mem h
  rw [hchildren] at hi
  exact (eq_of_getElem?_padded hi).imp_right And.right

theorem exists_children_late (hs : s.takesLater = true) (first later : Json) : ∃ others,
    children (s.late first later) = first :: others ∧ ∀ c ∈ others, c = .null ∨ c = later := by
  cases s with
  | key name => exact ⟨[later], rfl, fun c hc => .inr (List.mem_singleton.1 hc)⟩
  | descend inner => cases hs
  | _ => exact ⟨_, rfl, fun c hc => mem_children_wrap hc⟩

theorem held_late (hs : s.takesLater = true) (hfirst : held first = true) (hlater : held later = true) :
    held (s.late first later) = true := by
  have harray : ∀ t : Segment, held (.arr (first :: children (t.wrap later))) = true := by
    intro t
    refine heldItems_iff.2 (List.forall_mem_cons.2 ⟨hfirst, fun c hc => ?_⟩)
    exact held_of_mem_children (held_wrap t hlater) hc
  cases s with
  | key name =>
    have hname : name ≠ "" := by simpa [Segment.takesLater, Segment.takesFirst] using hs
    have hempty : "" < name := by
      rw [String.lt_iff_toList_lt]
      cases hchars : name.toList with
      | nil => exact absurd (String.toList_eq_nil_iff.1 hchars) hname
      | cons c cs => exact List.nil_lt_cons c cs
    have hascending : ascending [("", first), (name, later)] = true := by
      simpa [ascending] using hempty
    simp [Segment.late, held, heldMembers, hascending, hfirst, hlater]
  | descend inner => cases hs
  | _ => exact harray _

theorem late_ne_bool (s : Segment) (b : Bool) : s.late first later ≠ .bool b := by
  cases s <;> simp [Segment.late]

theorem neverBefore_late (hs : s.takesLater = true) (hfirst : OnlyTruth false first)
    (hlater : OnlyTruth true later) : NeverBefore true false (s.late first later) := by
  obtain ⟨others, hchildren, hothers⟩ := exists_children_late hs first later
  have hother : ∀ c ∈ others, OnlyTruth true c := by
    intro c hc q a hq
    rcases hothers c hc with rfl | rfl
    · exact absurd hq not_valueAt?_null
    · exact hlater q a hq
  intro p q hp hq hbefore
  obtain ⟨i, p, c, rfl, hc, hp'⟩ := valueAt?_bool (late_ne_bool s true) hp
  obtain ⟨k, q, d, rfl, hd, hq'⟩ := valueAt?_bool (late_ne_bool s false) hq
  rw [hchildren] at hc hd
  cases i with
  | zero =>
    cases hc
    exact absurd (hfirst p true hp') (by decide)
  | succ i =>
    cases k with
    | zero => exact absurd (before_cons_iff.1 hbefore) (by omega)
    | succ k => exact absurd (hother d (List.mem_of_getElem? hd) q false hq') (by decide)

end Late

section Misplaced

/-- In some document of the memory the segments select an `a` and then a `b`, but no `a` comes before a
`b` there. -/
def Misplaces (ss : List Segment) : Prop := ∃ a b j, held j = true ∧
  [Json.bool a, Json.bool b].Sublist (Segment.selectAll ss [j]) ∧ NeverBefore a b j

theorem Misplaces.cons (s : Segment) (h : Misplaces ss) : Misplaces (s :: ss) := by
  obtain ⟨a, b, j, hj, hsublist, hnever⟩ := h
  exact ⟨a, b, s.wrap j, held_wrap s hj, hsublist.trans (selectAll_sublist [s] j), hnever.wrap s⟩

theorem mem_selectAll_wrapAll (ss rest : List Segment) (h : v ∈ Segment.selectAll rest [j]) :
    v ∈ Segment.selectAll (ss ++ rest) [wrapAll ss j] :=
  (selectAll_sublist ss j).subset h

theorem selectAll_descend (inner : Segment) (rest : List Segment) (j : Json) :
    Segment.selectAll (.descend inner :: rest) [j] =
      (subvalues j).flatMap fun v => Segment.selectAll (inner :: rest) [v] := by
  rw [selectAll_cons, Segment.select_descend, selectAll_eq_flatMap, List.flatMap_assoc]
  refine List.flatMap_congr fun v _ => ?_
  rw [selectAll_cons, ← selectAll_eq_flatMap]

/-- A descent selects from a value before it selects from what is below it. -/
theorem sublist_descend {inner : Segment} {x y c : Json} (hc : c ∈ (children j).flatMap subvalues)
    (hx : x ∈ Segment.selectAll (inner :: rest) [j]) (hy : y ∈ Segment.selectAll (inner :: rest) [c]) :
    [x, y].Sublist (Segment.selectAll (.descend inner :: rest) [j]) := by
  rw [selectAll_descend, subvalues_eq, List.flatMap_cons]
  have hbelow : y ∈ ((children j).flatMap subvalues).flatMap fun v =>
      Segment.selectAll (inner :: rest) [v] := List.mem_flatMap.2 ⟨c, hc, hy⟩
  exact (List.singleton_sublist.2 hx).append (List.singleton_sublist.2 hbelow)

theorem mem_selectAll_self (ss : List Segment) (v : Json) :
    v ∈ Segment.selectAll ss [wrapAll ss v] := by
  have hself : v ∈ Segment.selectAll [] [v] := List.mem_singleton_self v
  simpa using mem_selectAll_wrapAll ss [] hself

theorem mem_children_of_wrap (s : Segment) (j : Json) : j ∈ children (s.wrap j) := by
  obtain ⟨n, m, hchildren⟩ := exists_children_wrap s
  rw [hchildren]
  exact List.mem_append_right _ List.mem_cons_self

theorem mem_subvalues_wrapAll (ss : List Segment) (j : Json) : j ∈ subvalues (wrapAll ss j) := by
  induction ss with
  | nil => exact mem_subvalues_self j
  | cons s ss ih =>
    rw [subvalues_eq]
    exact List.mem_cons_of_mem _ (List.mem_flatMap.2 ⟨_, mem_children_of_wrap s _, ih⟩)

theorem below_wrapAll {c : Json} (ss : List Segment) (hc : c ∈ (children j).flatMap subvalues) :
    c ∈ (children (wrapAll ss j)).flatMap subvalues := by
  induction ss with
  | nil => exact hc
  | cons s ss ih =>
    refine List.mem_flatMap.2 ⟨_, mem_children_of_wrap s (wrapAll ss j), ?_⟩
    rw [subvalues_eq]
    exact List.mem_cons_of_mem _ ih

/-- After a descent, to take a later position misplaces what the path finds before it. -/
theorem misplaces_later {inner t : Segment} {before after : List Segment}
    (heq : inner :: rest = before ++ t :: after) (ht : t.takesLater = true) :
    Misplaces (.descend inner :: rest) := by
  -- from the value that `t` takes the path goes to `true`, and from what stands first there the
  -- whole path goes to `false`, but only when the descent is further down
  let early := wrapAll (before ++ [t]) (wrapAll after (.bool false))
  let late := t.late early (wrapAll after (.bool true))
  have hearly : held early = true := held_wrapAll _ (held_wrapAll _ rfl)
  have hlate : held late = true := held_late ht hearly (held_wrapAll _ rfl)
  have hnever : NeverBefore true false late :=
    neverBefore_late ht (((onlyTruth_bool false).wrapAll after).wrapAll _)
      ((onlyTruth_bool true).wrapAll after)
  have htrue : .bool true ∈ Segment.selectAll (t :: after) [late] :=
    mem_selectAll_cons.2 ⟨_, mem_select_late ht, mem_selectAll_self after _⟩
  have hfalse : .bool false ∈ Segment.selectAll (before ++ t :: after) [early] := by
    rw [List.append_cons]
    exact mem_selectAll_wrapAll _ _ (mem_selectAll_self after _)
  have hbelow : early ∈ (children late).flatMap subvalues := by
    obtain ⟨others, hchildren, -⟩ := exists_children_late ht early (wrapAll after (.bool true))
    rw [hchildren]
    exact List.mem_flatMap.2 ⟨early, List.mem_cons_self, mem_subvalues_self early⟩
  refine ⟨true, false, wrapAll before late, held_wrapAll _ hlate, ?_, hnever.wrapAll before⟩
  refine sublist_descend (below_wrapAll before hbelow) ?_ (heq ▸ hfalse)
  rw [heq]
  exact mem_selectAll_wrapAll before _ htrue

/-- After a descent, a second descent selects the same value twice. -/
theorem misplaces_twice {inner again : Segment} {before after : List Segment}
    (heq : inner :: rest = before ++ .descend again :: after) :
    Misplaces (.descend inner :: rest) := by
  -- the second descent begins once around `lower` and once inside of it, and both times it comes
  -- to the only `true` there is
  let target := again.wrap (wrapAll after (.bool true))
  let lower := wrapAll before target
  have htarget : ∀ j, target ∈ subvalues j →
      .bool true ∈ Segment.selectAll (.descend again :: after) [j] := by
    intro j hj
    refine mem_selectAll_cons.2 ⟨wrapAll after (.bool true), ?_, mem_selectAll_self after _⟩
    rw [Segment.select_descend]
    exact List.mem_flatMap.2 ⟨target, hj, mem_select_wrap again _⟩
  have hupper : .bool true ∈ Segment.selectAll (before ++ .descend again :: after)
      [wrapAll before (Segment.all.wrap lower)] :=
    mem_selectAll_wrapAll before _ (htarget _ (mem_subvalues_wrapAll (.all :: before) target))
  have hlower : .bool true ∈ Segment.selectAll (before ++ .descend again :: after) [lower] :=
    mem_selectAll_wrapAll before _ (htarget _ (mem_subvalues_self target))
  have hbelow : lower ∈ (children (Segment.all.wrap lower)).flatMap subvalues :=
    List.mem_flatMap.2 ⟨lower, mem_children_of_wrap _ _, mem_subvalues_self lower⟩
  have hnever : NeverBefore true true lower :=
    (((neverBefore_bool true).wrapAll after).wrap again).wrapAll before
  refine ⟨true, true, wrapAll before (Segment.all.wrap lower), ?_, ?_, (hnever.wrap _).wrapAll before⟩
  · exact held_wrapAll _ (held_wrap _ (held_wrapAll _ (held_wrap _ (held_wrapAll _ rfl))))
  · exact sublist_descend (below_wrapAll before hbelow) (heq ▸ hupper) (heq ▸ hlower)

theorem misplaces_of_not_keepsOrder (h : keepsOrder ss = false) : Misplaces ss := by
  induction ss with
  | nil => cases h
  | cons s rest ih =>
    cases s with
    | descend inner =>
      obtain ⟨t, ht, hfirst⟩ := List.all_eq_false.1 h
      obtain ⟨before, after, heq⟩ := List.append_of_mem ht
      cases t with
      | descend again => exact misplaces_twice heq
      | _ => exact misplaces_later heq (by simpa [Segment.takesLater] using hfirst)
    | _ => exact (ih h).cons _

theorem not_inDocumentOrder {x y : Json} {vs : List Json} (hsublist : [x, y].Sublist vs)
    (hnever : ∀ p q, valueAt? j p = some x → valueAt? j q = some y → ¬p.Before q) :
    ¬InDocumentOrder ss j vs := by
  rintro ⟨ps, hps, -, hvalues⟩
  have hmap : ([x, y].map some).Sublist (ps.map (valueAt? j)) := hvalues ▸ hsublist.map some
  obtain ⟨qs, hqs, heq⟩ := List.sublist_map_iff.1 hmap
  obtain ⟨p, q, rfl⟩ : ∃ p q, qs = [p, q] := by
    have hlength := congrArg List.length heq
    rw [List.length_map, List.length_map] at hlength
    exact List.length_eq_two.1 hlength.symm
  simp only [List.map_cons, List.map_nil, List.cons.injEq, and_true] at heq
  exact hnever p q heq.1.symm heq.2.symm (List.pairwise_pair.1 (hps.sublist hqs))

end Misplaced

/-- A path selects the values at the places that its segments lead to. In all documents it does so in
the order of the document, each once, exactly if its segments keep the order; then the usual
strategies find the value at the first of these places. -/
theorem matches_in_order_iff {path : String} (hpath : segments? path = some ss) :
    (∀ j vs, held j = true → matches? j path = some vs → ∃ ps : List Place,
      (∀ p, p ∈ ps ↔ Leads ss j p) ∧ vs.map some = ps.map (valueAt? j)) ∧
    ((∀ j vs, held j = true → matches? j path = some vs → InDocumentOrder ss j vs) ↔
      keepsOrder ss = true) ∧
    (keepsOrder ss = true → ∀ j p, held j = true → Leads ss j p →
      ∃ q, Leads ss j q ∧ (∀ r, Leads ss j r → r ≠ q → q.Before r) ∧
        Path.first Strategy.usual j path = valueAt? j q) := by
  have hmatches : ∀ j, matches? j path = some (Segment.selectAll ss [j]) := by
    intro j
    rw [matches?, hpath, Option.map_some]
  refine ⟨?_, ⟨fun h => ?_, fun hss j vs hj hvs => ?_⟩, fun hss j p hj hp => ?_⟩
  · intro j vs hj hvs
    cases (hmatches j).symm.trans hvs
    obtain ⟨ps, hleads, hvalues, -⟩ := exists_places ss hj
    exact ⟨ps, hleads, hvalues⟩
  · by_contra hss
    obtain ⟨a, b, j, hj, hsublist, hnever⟩ := misplaces_of_not_keepsOrder (Bool.eq_false_iff.2 hss)
    exact not_inDocumentOrder hsublist hnever (h j _ hj (hmatches j))
  · cases (hmatches j).symm.trans hvs
    exact inDocumentOrder_of_keepsOrder hj hss
  · obtain ⟨ps, hps, hleads, hvalues⟩ := inDocumentOrder_of_keepsOrder hj hss
    cases ps with
    | nil => exact absurd ((hleads p).2 hp) List.not_mem_nil
    | cons q ps =>
      refine ⟨q, (hleads q).1 List.mem_cons_self, fun r hr hne => ?_, ?_⟩
      · rcases List.mem_cons.1 ((hleads r).2 hr) with rfl | hmem
        · exact absurd rfl hne
        · exact (List.pairwise_cons.1 hps).1 r hmem
      · rw [first_usual hpath]
        cases hfound : Segment.selectAll ss [j] with
        | nil => simp [hfound] at hvalues
        | cons v vs =>
          rw [hfound, List.map_cons, List.map_cons, List.cons.injEq] at hvalues
          exact hvalues.1

theorem matches_in_order_of_first_items :
    let ss : List Segment := [.key "a", .descend (.index 0)]
    let j : Json := .obj [("a", .arr [.arr [.int 1], .arr [.int 2, .int 3]])]
    let vs : List Json := [.arr [.int 1], .int 1, .int 2]
    segments? "$.a..[0]" = some ss ∧ keepsOrder ss = true ∧ held j = true ∧
      Leads ss j [0, 1, 0] ∧ matches? j "$.a..[0]" = some vs ∧ InDocumentOrder ss j vs ∧
      ∃ q, Leads ss j q ∧ (∀ r, Leads ss j r → r ≠ q → q.Before r) ∧
        Path.first Strategy.usual j "$.a..[0]" = valueAt? j q := by
  intro ss j vs
  have hpath : segments? "$.a..[0]" = some ss := rfl
  have hss : keepsOrder ss = true := rfl
  have hj : held j = true := by simp [j, held, heldItems, heldMembers, ascending]
  have hmatches : matches? j "$.a..[0]" = some vs := by
    have hkey : (Segment.key "a").select j = [.arr [.arr [.int 1], .arr [.int 2, .int 3]]] := rfl
    rw [matches?, hpath, Option.map_some, selectAll_cons, hkey, selectAll_cons,
      Segment.select_descend]
    rfl
  have hitem : (Segment.descend (.index 0)).Leads (.arr [.arr [.int 1], .arr [.int 2, .int 3]]) [1, 0] :=
    ⟨[1], [0], .arr [.int 2, .int 3], rfl, rfl, 0, rfl, rfl, by decide⟩
  have hleads : Leads ss j [0, 1, 0] :=
    ⟨[0], [1, 0], _, rfl, ⟨0, rfl, by decide, by decide⟩, rfl, [1, 0], [], .int 2, rfl, hitem, rfl, rfl⟩
  obtain ⟨-, horder, hfirst⟩ := matches_in_order_iff hpath
  exact ⟨hpath, hss, hj, hleads, hmatches, horder.2 hss j vs hj hmatches, hfirst hss j _ hj hleads⟩

/-- The member of the root is found first, though it stands behind the one inside of `a`. -/
theorem matches_out_of_order :
    let ss : List Segment := [.descend (.key "k")]
    let j : Json := .obj [("a", .obj [("k", .int 1)]), ("k", .int 2)]
    segments? "$..k" = some ss ∧ held j = true ∧ matches? j "$..k" = some [.int 2, .int 1] ∧
      Path.first Strategy.usual j "$..k" = some (.int 2) ∧
      ¬InDocumentOrder ss j [.int 2, .int 1] := by
  intro ss j
  have hpath : segments? "$..k" = some ss := rfl
  have hj : held j = true := by
    have hkeys : "a" < "k" := by decide +kernel
    simpa [j, held, heldMembers, ascending] using hkeys
  have hselect : Segment.selectAll ss [j] = [.int 2, .int 1] := by
    rw [selectAll_cons, Segment.select_descend]
    rfl
  have hlocations : locations j =
      [([], j), ([0], .obj [("k", .int 1)]), ([0, 0], .int 1), ([1], .int 2)] := rfl
  have hlate : ∀ p, valueAt? j p = some (.int 2) → p = [1] := by
    intro p hp
    have hmem := mem_locations_iff.2 hp
    rw [hlocations] at hmem
    simpa [j] using hmem
  have hearly : ∀ p, valueAt? j p = some (.int 1) → p = [0, 0] := by
    intro p hp
    have hmem := mem_locations_iff.2 hp
    rw [hlocations] at hmem
    simpa [j] using hmem
  refine ⟨hpath, hj, by rw [matches?, hpath, Option.map_some, hselect], ?_, ?_⟩
  · rw [first_usual hpath, hselect]
    rfl
  · refine not_inDocumentOrder (List.Sublist.refl _) fun p q hp hq hbefore => ?_
    rw [hlate p hp, hearly q hq, before_cons_iff] at hbefore
    omega

end StorePolicy.Path

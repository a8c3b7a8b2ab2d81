import Mathlib.Data.List.Forall2
import StorePolicy.Proofs.Path.PlainKeys

/-!
# When the dotted reading of a JSON path is idle

The usual strategies try a path as a dotted path when it is rejected as a JSON path, and also when it
is a JSON path and nothing is found. So the dotted reading of a JSON path can supply a value. It cannot
exactly if the segments of the JSON path admit the keys of the dotted path one by one: then whatever is
found under these keys is among what the segments select.
-/
namespace StorePolicy.Path

open Text

/-- A segment selects what an object holds under this key, whatever else it selects. -/
def Segment.admits : Segment → String → Bool
  | .key name, k => name == k
  | .index _, _ => false
  | .all, _ => true
  | .descend inner, k => inner.admits k

def Admitted (ss : List Segment) (ks : List String) : Prop :=
  List.Forall₂ (fun s k => s.admits k = true) ss ks

variable {s : Segment} {ss : List Segment} {k : String} {ks : List String} {j v : Json}

theorem selectAll_eq_flatMap (ss : List Segment) (nodes : List Json) :
    Segment.selectAll ss nodes = nodes.flatMap fun j => Segment.selectAll ss [j] := by
  induction ss generalizing nodes with
  | nil => simp [Segment.selectAll]
  | cons s ss ih =>
    have hstep : ∀ nodes, Segment.selectAll (s :: ss) nodes =
        (nodes.flatMap s.select).flatMap fun j => Segment.selectAll ss [j] := fun nodes => ih _
    simp only [hstep, List.flatMap_assoc, List.flatMap_singleton]

theorem mem_selectAll_cons :
    v ∈ Segment.selectAll (s :: ss) [j] ↔ ∃ w ∈ s.select j, v ∈ Segment.selectAll ss [w] := by
  rw [selectAll_cons, selectAll_eq_flatMap, List.mem_flatMap]

section Found

theorem mem_subvalues_self (j : Json) : j ∈ subvalues j := by
  cases j <;> simp [subvalues]

theorem mem_values_of_lookup {members : List (String × Json)} (h : members.lookup k = some v) :
    v ∈ members.map (·.2) := by
  induction members with
  | nil => cases h
  | cons m rest ih =>
    rw [List.lookup_cons] at h
    split at h
    · cases h
      exact List.mem_cons_self
    · exact List.mem_cons_of_mem _ (ih h)

theorem mem_children_of_get? (h : j.get? k = some v) : v ∈ children j := by
  cases j with
  | obj members => exact mem_values_of_lookup h
  | _ => cases h

theorem mem_select_of_admits (hs : s.admits k = true) (h : j.get? k = some v) : v ∈ s.select j := by
  induction s with
  | key name =>
    obtain rfl : name = k := by simpa [Segment.admits] using hs
    simp [Segment.select, h]
  | index i => cases hs
  | all => exact mem_children_of_get? h
  | descend inner ih =>
    rw [Segment.select_descend]
    exact List.mem_flatMap.2 ⟨j, mem_subvalues_self j, ih hs⟩

theorem mem_selectAll_of_follow (hss : Admitted ss ks) (h : follow ks j = some v) :
    v ∈ Segment.selectAll ss [j] := by
  induction hss generalizing j with
  | nil =>
    cases h
    exact List.mem_singleton_self v
  | cons hs _ ih =>
    obtain ⟨w, hget, hfollow⟩ := Option.bind_eq_some_iff.1 h
    exact mem_selectAll_cons.2 ⟨w, mem_select_of_admits hs hget, ih hfollow⟩

end Found

section Nest

theorem mem_subvalues_nest (h : v ∈ subvalues (nest ks)) : ∃ ls, ls <:+ ks ∧ v = nest ls := by
  induction ks with
  | nil => exact ⟨[], List.suffix_rfl, by simpa [nest, subvalues] using h⟩
  | cons k ks ih =>
    have hcases : v = nest (k :: ks) ∨ v ∈ subvalues (nest ks) := by
      simpa [nest, subvalues, memberSubvalues] using h
    rcases hcases with rfl | hbelow
    · exact ⟨k :: ks, List.suffix_rfl, rfl⟩
    · obtain ⟨ls, hsuffix, rfl⟩ := ih hbelow
      exact ⟨ls, hsuffix.trans (List.suffix_cons k ks), rfl⟩

theorem mem_select_nest (h : v ∈ s.select (nest ks)) :
    ∃ k ls, k :: ls <:+ ks ∧ s.admits k = true ∧ v = nest ls := by
  induction s generalizing ks with
  | key name =>
    cases ks with
    | nil => simp [Segment.select, nest, Json.get?, Json.members?] at h
    | cons k ks =>
      rw [Segment.select, get?_nest] at h
      split at h
      · rename_i hname
        exact ⟨k, ks, List.suffix_rfl, by simp [Segment.admits, hname], by simpa using h⟩
      · simp at h
  | index i => cases ks <;> simp [Segment.select, nest, Json.items?] at h
  | all =>
    cases ks with
    | nil => simp [Segment.select, nest, children] at h
    | cons k ks =>
      exact ⟨k, ks, List.suffix_rfl, rfl, by simpa [Segment.select, nest, children] using h⟩
  | descend inner ih =>
    rw [Segment.select_descend] at h
    obtain ⟨w, hw, hv⟩ := List.mem_flatMap.1 h
    obtain ⟨ls, hsuffix, rfl⟩ := mem_subvalues_nest hw
    obtain ⟨k, ms, hms, hadmits, rfl⟩ := ih hv
    exact ⟨k, ms, hms.trans hsuffix, hadmits, rfl⟩

theorem exists_admitted_of_mem_nest (h : v ∈ Segment.selectAll ss [nest ks]) :
    ∃ ls, ls.Sublist ks ∧ Admitted ss ls := by
  induction ss generalizing ks with
  | nil => exact ⟨[], List.nil_sublist ks, .nil⟩
  | cons s ss ih =>
    obtain ⟨w, hw, hv⟩ := mem_selectAll_cons.1 h
    obtain ⟨k, ls, hsuffix, hadmits, rfl⟩ := mem_select_nest hw
    obtain ⟨ms, hms, hss⟩ := ih hv
    exact ⟨k :: ms, (hms.cons_cons k).trans hsuffix.sublist, .cons hadmits hss⟩

end Nest

section Parts

variable {cs rest body : List Char}

theorem length_parts_append (hbody : '.' ∉ body) (cs : List Char) :
    (parts (body ++ cs)).length ≤ (parts cs).length + 1 := by
  have hfilter : ∀ p ps, (List.filter isKey ps).length ≤ (List.filter isKey (p :: ps)).length ∧
      (List.filter isKey (p :: ps)).length ≤ (List.filter isKey ps).length + 1 := by
    intro p ps
    by_cases hp : isKey p = true <;> simp [hp]
  rw [parts, parts, splitDots_append hbody]
  cases splitDots cs with
  | nil => simp
  | cons p ps =>
    simp only [List.modifyHead_cons, List.map_cons]
    have hlong := (hfilter (trim (body ++ p)) (ps.map trim)).2
    have hshort := (hfilter (trim p) (ps.map trim)).1
    omega

theorem not_point_of_mem_splitDots {part : List Char} (h : part ∈ splitDots cs) : '.' ∉ part := by
  induction cs generalizing part with
  | nil => simp_all [splitDots]
  | cons c cs ih =>
    rw [splitDots] at h
    split at h
    · rcases List.mem_cons.1 h with rfl | hmem
      · exact List.not_mem_nil
      · exact ih hmem
    · rename_i hc
      cases hsplit : splitDots cs with
      | nil => exact absurd hsplit (splitDots_ne_nil cs)
      | cons head rest =>
        rw [hsplit] at h ih
        rcases List.mem_cons.1 h with rfl | hmem
        · simpa [Ne.symm hc] using ih List.mem_cons_self
        · exact ih (List.mem_cons_of_mem _ hmem)

theorem not_point_of_mem_parts {part : List Char} (h : part ∈ parts cs) : '.' ∉ part := by
  obtain ⟨whole, hwhole, rfl⟩ := List.mem_map.1 (List.mem_of_mem_filter h)
  exact fun hmem => not_point_of_mem_splitDots hwhole (mem_of_mem_trim hmem)

theorem not_point_of_writtenName {name : String} (h : WrittenName name cs) : '.' ∉ cs :=
  fun hmem => absurd (h.unmarked _ hmem).1 (by decide)

theorem not_point_of_writtenStep (h : WrittenStep s cs) : '.' ∉ cs := by
  cases h with
  | all => decide
  | key h _ => exact not_point_of_writtenName h

theorem not_point_of_writtenBracket (h : WrittenBracket s cs) (hs : s.admits k = true)
    (hk : '.' ∉ k.toList) : '.' ∉ cs := by
  cases h with
  | @key name quote hquote hlacks =>
    obtain rfl : name = k := by simpa only [Segment.admits, beq_iff_eq] using hs
    rcases hquote with rfl | rfl <;> simp [hk]
  | @all inside hstar hclose =>
    intro hmem
    have hinside : '.' ∈ inside := by simpa using hmem
    simpa [hstar] using mem_trim hinside (by decide)
  | position h hclose => cases hs

theorem length_parts_of_writtenSegment (h : WrittenSegment s cs) (hs : s.admits k = true)
    (hk : '.' ∉ k.toList) (rest : List Char) :
    (parts (cs ++ rest)).length ≤ (parts rest).length + 1 := by
  cases h with
  | step h => simpa using length_parts_append (not_point_of_writtenStep h) rest
  | bracket h =>
    have hbracket := not_point_of_writtenBracket h hs hk
    exact length_parts_append (by simpa using hbracket) rest
  | descendStep h => simpa using length_parts_append (not_point_of_writtenStep h) rest
  | @descendBracket _ inside h =>
    have hbracket := not_point_of_writtenBracket h hs hk
    have hinside : '.' ∉ '[' :: inside := by simpa using hbracket
    simpa using length_parts_append hinside rest

theorem length_parts_of_written (h : Written ss cs) (hss : Admitted ss ks)
    (hks : ∀ k ∈ ks, '.' ∉ k.toList) : (parts cs).length ≤ ss.length := by
  induction h generalizing ks with
  | nil => decide
  | @cons s cs ss rest h _ ih =>
    cases hss with
    | cons hs hss =>
      obtain ⟨hk, hks⟩ := List.forall_mem_cons.1 hks
      have hfirst := length_parts_of_writtenSegment h hs hk rest
      have hrest := ih hss hks
      rw [List.length_cons]
      omega

theorem parts_dropRoot (h : Written ss cs) : parts (dropRoot ('$' :: cs)) = parts cs := by
  have hpoint : ∀ {c : Char} (cs : List Char), c ≠ '$' →
      parts (dropRoot ('$' :: '.' :: c :: cs)) = parts ('.' :: c :: cs) := by
    intro c cs hc
    rw [dropRoot_root hc, parts_point]
  cases h with
  | nil => rfl
  | @cons s cs ss rest h _ =>
    cases h with
    | step h =>
      obtain ⟨c, cs, rfl, -, -, hc⟩ := h.head
      exact hpoint (cs ++ rest) hc
    | bracket h => rfl
    | descendStep h => exact hpoint _ (by decide)
    | descendBracket h => exact hpoint _ (by decide)

theorem length_keysOf_le {path : String} (h : WrittenPath ss path) (hss : Admitted ss ks)
    (hks : ∀ k ∈ ks, '.' ∉ k.toList) : (keysOf path.toList).length ≤ ss.length := by
  have hkeys : keysOf path.toList = parts (dropRoot (trim path.toList)) := rfl
  rw [hkeys]
  cases h with
  | root hpath hcs =>
    rw [hpath, parts_dropRoot hcs]
    exact length_parts_of_written hcs hss hks
  | @key name ss cs rest path hpath hname hrest =>
    cases hss with
    | cons _ hss =>
      have hfirst := length_parts_append (not_point_of_writtenName hname) rest
      have hmore := length_parts_of_written hrest hss (List.forall_mem_cons.1 hks).2
      obtain ⟨c, cs, rfl, -, hc⟩ := hname.head
      rw [hpath, List.cons_append, dropRoot_of_ne hc, ← List.cons_append, List.length_cons]
      omega

theorem not_point_of_mem_keys {path : String} (h : k ∈ keys path) : '.' ∉ k.toList := by
  obtain ⟨part, hpart, rfl⟩ := List.mem_map.1 h
  rw [String.toList_ofList]
  exact not_point_of_mem_parts hpart

theorem length_keys_le {path : String} (h : segments? path = some ss) (hss : Admitted ss ks)
    (hks : ∀ k ∈ ks, '.' ∉ k.toList) : (keys path).length ≤ ss.length := by
  rw [keys, List.length_map]
  exact length_keysOf_le (segments?_eq_some_iff.1 h) hss hks

end Parts

variable {path : String}

/-- What the usual strategies find under a JSON path: its first match, or else what the dotted
reading leads to. -/
theorem first_usual (h : segments? path = some ss) (j : Json) :
    first Strategy.usual j path = (Segment.selectAll ss [j]).head?.or (walk j path) := by
  have hmatches : matches? j path = some (Segment.selectAll ss [j]) := by rw [matches?, h, Option.map_some]
  have hdotted : first [.dotted] j path = walk j path := by
    rw [first, Strategy.resolve]
    cases walk j path <;> rfl
  rw [Strategy.usual, first, Strategy.resolve, hmatches, hdotted]
  cases Segment.selectAll ss [j] <;> rfl

theorem selectAll_ne_nil_of_walk (hss : Admitted ss (keys path)) (h : walk j path = some v) :
    Segment.selectAll ss [j] ≠ [] :=
  List.ne_nil_of_mem (mem_selectAll_of_follow hss h)

theorem admitted_of_mem_nest (h : segments? path = some ss)
    (hv : v ∈ Segment.selectAll ss [nest (keys path)]) : Admitted ss (keys path) := by
  -- the segments admit some of the dotted keys, and there are not more of these than segments
  obtain ⟨ls, hsublist, hss⟩ := exists_admitted_of_mem_nest hv
  have hpoints : ∀ k ∈ ls, '.' ∉ k.toList := fun k hk => not_point_of_mem_keys (hsublist.subset hk)
  have hlength : (keys path).length ≤ ls.length := hss.length_eq ▸ length_keys_le h hss hpoints
  rwa [hsublist.eq_of_length_le hlength] at hss

/-- The dotted reading of a JSON path supplies no value in any document exactly if the segments admit
the keys one by one. -/
theorem fallback_idle_iff (path : String) :
    (∀ j vs, matches? j path = some vs → first Strategy.usual j path = vs.head?) ↔
      ∀ ss, segments? path = some ss → Admitted ss (keys path) := by
  constructor
  · intro h ss hss
    -- in the nest of its keys the dotted reading finds a value, so the segments must as well
    have hfirst := h (nest (keys path)) _ (by rw [matches?, hss, Option.map_some])
    rw [first_usual hss, walk, follow_nest] at hfirst
    cases hfound : Segment.selectAll ss [nest (keys path)] with
    | nil => simp [hfound] at hfirst
    | cons v vs => exact admitted_of_mem_nest hss (hfound ▸ List.mem_cons_self)
  · intro h j vs hmatches
    obtain ⟨ss, hss, rfl⟩ := Option.map_eq_some_iff.1 hmatches
    rw [first_usual hss]
    cases hwalk : walk j path with
    | none => exact Option.or_none
    | some v =>
      have hne := selectAll_ne_nil_of_walk (h ss hss) hwalk
      rw [List.head?_eq_some_head hne, Option.some_or]

theorem fallback_supplies_bracketed_key :
    matches? (.obj [("a[0]", .int 1)]) "$.a[0]" = some [] ∧
    first Strategy.usual (.obj [("a[0]", .int 1)]) "$.a[0]" = some (.int 1) :=
  ⟨rfl, rfl⟩

end StorePolicy.Path

import StorePolicy.Proofs.Files.Steps

/-!
# Where paths lead

A path leads to a place whether or not there is anything at it: all links on the way are followed,
however many, and from a name that is missing on, the rest of the path is taken by its text. What a
path resolves to is where it leads; without links that is where its steps go.
-/
namespace StorePolicy

namespace Files

def Move.apply (place : FilePlace) : Move → FilePlace
  | .here => place
  | .up => place.dropLast
  | .down name => place ++ [name]

end Files

namespace FileTree
open Files

def linkStart (folder : FilePlace) (text : String) : FilePlace :=
  if Location.isAbsolute text then [] else folder

/-- Steps lead from one place to another with every link followed, and all names on the way are
found or one is missing. -/
inductive Leads (t : FileTree) : FilePlace → List Move → Bool → FilePlace → Prop
  | stop {place : FilePlace} : Leads t place [] true place
  | up {place q : FilePlace} {rest : List Move} {found : Bool}
      (h : Leads t place.dropLast rest found q) : Leads t place (.up :: rest) found q
  | link {place q : FilePlace} {name text : String} {rest : List Move} {found : Bool}
      (hlink : t.entry? (place ++ [name]) = some (.link text))
      (h : Leads t (linkStart place text) (steps text ++ rest) found q) :
      Leads t place (.down name :: rest) found q
  | name {place q : FilePlace} {name : String} {e : FileEntry} {rest : List Move} {found : Bool}
      (hentry : t.entry? (place ++ [name]) = some e) (hlink : ∀ text, e ≠ .link text)
      (h : Leads t (place ++ [name]) rest found q) : Leads t place (.down name :: rest) found q
  | missing {place : FilePlace} {name : String} {rest : List Move}
      (hnone : t.entry? (place ++ [name]) = none) :
      Leads t place (.down name :: rest) false (rest.foldl Move.apply (place ++ [name]))

def LeadsTo (t : FileTree) (path : String) (found : Bool) (q : FilePlace) : Prop :=
  t.Leads (t.start path) (steps path) found q

variable {t : FileTree} {place q q' r : FilePlace} {name text : String} {e : FileEntry}
  {xs ys : List Move} {found found' : Bool}

theorem leads_up_iff : t.Leads place (.up :: xs) found q ↔ t.Leads place.dropLast xs found q := by
  refine ⟨fun h => ?_, .up⟩
  cases h with
  | up h => exact h

theorem leads_link_iff (hlink : t.entry? (place ++ [name]) = some (.link text)) :
    t.Leads place (.down name :: xs) found q ↔
      t.Leads (linkStart place text) (steps text ++ xs) found q := by
  refine ⟨fun h => ?_, .link hlink⟩
  cases h with
  | link hlink' h =>
    rw [hlink] at hlink'
    cases hlink'
    exact h
  | name hentry hnot h =>
    rw [hlink] at hentry
    cases hentry
    exact absurd rfl (hnot _)
  | missing hnone =>
    rw [hlink] at hnone
    cases hnone

theorem leads_name_iff (hentry : t.entry? (place ++ [name]) = some e)
    (hnot : ∀ text, e ≠ .link text) :
    t.Leads place (.down name :: xs) found q ↔ t.Leads (place ++ [name]) xs found q := by
  refine ⟨fun h => ?_, .name hentry hnot⟩
  cases h with
  | link hlink h =>
    rw [hentry] at hlink
    cases hlink
    exact absurd rfl (hnot _)
  | name _ _ h => exact h
  | missing hnone =>
    rw [hentry] at hnone
    cases hnone

theorem leads_missing_iff (hnone : t.entry? (place ++ [name]) = none) :
    t.Leads place (.down name :: xs) found q ↔
      found = false ∧ q = xs.foldl Move.apply (place ++ [name]) := by
  constructor
  · intro h
    cases h with
    | link hlink h =>
      rw [hnone] at hlink
      cases hlink
    | name hentry _ h =>
      rw [hnone] at hentry
      cases hentry
    | missing _ => exact ⟨rfl, rfl⟩
  · rintro ⟨rfl, rfl⟩
    exact .missing hnone

theorem Leads.unique (h : t.Leads place xs found q) (h' : t.Leads place xs found' q') :
    found = found' ∧ q = q' := by
  induction h with
  | stop =>
    cases h'
    exact ⟨rfl, rfl⟩
  | up _ ih => exact ih (leads_up_iff.1 h')
  | link hlink _ ih => exact ih ((leads_link_iff hlink).1 h')
  | name hentry hnot _ ih => exact ih ((leads_name_iff hentry hnot).1 h')
  | missing hnone =>
    obtain ⟨rfl, rfl⟩ := (leads_missing_iff hnone).1 h'
    exact ⟨rfl, rfl⟩

theorem Leads.append_iff (h : t.Leads place xs true r) :
    t.Leads place (xs ++ ys) found q ↔ t.Leads r ys found q := by
  generalize hfound : true = f at h
  induction h with
  | stop => rfl
  | up _ ih => rw [List.cons_append, leads_up_iff, ih hfound]
  | link hlink _ ih =>
    rw [List.cons_append, leads_link_iff hlink, ← List.append_assoc, ih hfound]
  | name hentry hnot _ ih => rw [List.cons_append, leads_name_iff hentry hnot, ih hfound]
  | missing => cases hfound

/-- Where a name is missing, the steps that follow are taken by their text. -/
theorem Leads.append_missing (h : t.Leads place xs false r) (ys : List Move) :
    t.Leads place (xs ++ ys) false (ys.foldl Move.apply r) := by
  generalize hfound : false = f at h
  induction h with
  | stop => cases hfound
  | up _ ih => exact .up (ih hfound)
  | link hlink _ ih =>
    rw [List.cons_append, leads_link_iff hlink, ← List.append_assoc]
    exact ih hfound
  | name hentry hnot _ ih => exact .name hentry hnot (ih hfound)
  | missing hnone =>
    rw [List.cons_append, ← List.foldl_append]
    exact .missing hnone

/-- What the end of following moves tells of where the steps lead. -/
def Tells (t : FileTree) (place : FilePlace) (xs : List Move) : Except Fault FilePlace → Prop
  | .ok q => t.Leads place xs true q
  | .error .notFound => ∃ q, t.Leads place xs false q
  | .error _ => True

theorem Tells.imp {place' : FilePlace} {end? : Except Fault FilePlace}
    (himp : ∀ found q, t.Leads place xs found q → t.Leads place' ys found q)
    (h : t.Tells place xs end?) : t.Tells place' ys end? := by
  cases end? with
  | ok q => exact himp true q h
  | error f =>
    cases f with
    | notFound => exact Exists.imp (himp false) h
    | _ => trivial

theorem tells_follow (links : Nat) (place : FilePlace) (ms : List Move) :
    t.Tells place (ms.filter (· ≠ .here)) (t.follow false links place ms) := by
  fun_induction follow t false links place ms with
  | case1 => exact .stop
  | case2 => trivial
  | case3 links place rest hfolder ih => simpa using ih
  | case4 links place rest hfolder ih =>
    rw [List.filter_cons_of_pos (by simp)]
    exact ih.imp fun found q => .up
  | case5 => trivial
  | case6 links place rest hfolder name hlength next hnone hlast => cases hlast
  | case7 links place rest hfolder name hlength next hnone hlast =>
    rw [List.filter_cons_of_pos (by simp)]
    exact ⟨_, .missing hnone⟩
  | case8 => trivial
  | case9 place rest hfolder name hlength next text hlink links ih =>
    rw [List.filter_cons_of_pos (by simp)]
    rw [List.filter_append] at ih
    exact ih.imp fun found q => .link hlink
  | case10 links place rest hfolder name hlength next e hnot hentry ih =>
    rw [List.filter_cons_of_pos (by simp)]
    exact ih.imp fun found q => .name hentry hnot

variable {path root target : String} {base : FilePlace}

theorem ne_empty_of_resolve (h : t.resolve path = .ok q) : path ≠ "" := by
  rintro rfl
  cases h

theorem leadsTo_of_resolve (h : t.resolve path = .ok q) : t.LeadsTo path true q := by
  have htells := t.tells_follow maxLinks (t.start path) (moves path)
  unfold resolve at h
  split at h
  · cases h
  · rwa [h] at htells

theorem follow_create_eq_ok_iff {links : Nat} {ms : List Move} (h : (t.entry? q).isSome) :
    t.follow true links place ms = .ok q ↔ t.follow false links place ms = .ok q := by
  have hfound : ∀ {next : FilePlace}, t.entry? next = none → next ≠ q := by
    intro next hnone heq
    rw [heq] at hnone
    simp [hnone] at h
  fun_induction follow t false links place ms with
  | case1 => rw [follow]
  | case2 links place move rest hfolder =>
    rw [follow.eq_def]
    simp [hfolder]
  | case3 links place rest hfolder ih =>
    rw [follow]
    simpa [hfolder] using ih
  | case4 links place rest hfolder ih =>
    rw [follow]
    simpa [hfolder] using ih
  | case5 links place rest hfolder name hlength =>
    rw [follow]
    simp [hfolder, hlength]
  | case6 links place rest hfolder name hlength next hnone hlast => cases hlast
  | case7 links place rest hfolder name hlength next hnone hlast =>
    rw [follow]
    cases rest <;> simp [hfolder, hlength, next, hnone, hfound hnone]
  | case8 place rest hfolder name hlength next text hlink =>
    rw [follow]
    simp [hfolder, hlength, next, hlink]
  | case9 place rest hfolder name hlength next text hlink links ih =>
    rw [follow]
    simpa [hfolder, hlength, next, hlink] using ih
  | case10 links place rest hfolder name hlength next e hnot hentry ih =>
    rw [follow]
    simpa [hfolder, hlength, next, hentry] using ih

theorem resolveNew_eq_ok_iff (h : (t.entry? q).isSome) :
    t.resolveNew path = .ok q ↔ t.resolve path = .ok q := by
  unfold resolveNew resolve
  split
  · rfl
  · exact follow_create_eq_ok_iff h

theorem refuses_of_notFound (hne : path ≠ "") (h : t.resolve path = .error .notFound) :
    refuses path = none ∧ t.follow false maxLinks (t.start path) (moves path) = .error .notFound := by
  have hempty : path.isEmpty = false := by simpa using hne
  unfold resolve at h
  split at h
  · next hrefuses =>
    cases h
    simp only [refuses, hempty] at hrefuses
    split at hrefuses
    · contradiction
    · split at hrefuses
      · cases hrefuses
      · split at hrefuses <;> cases hrefuses
  · next hrefuses => exact ⟨hrefuses, h⟩

theorem leadsTo_of_notFound (hne : path ≠ "") (h : t.resolve path = .error .notFound) :
    ∃ q, t.LeadsTo path false q := by
  have htells := t.tells_follow maxLinks (t.start path) (moves path)
  rwa [(refuses_of_notFound hne h).2] at htells

theorem leadsTo_join_iff (hroot : t.resolve root = .ok base)
    (htarget : Location.isAbsolute target = false) :
    t.LeadsTo (Location.join root target) found q ↔ t.Leads base (steps target) found q := by
  have hne := ne_empty_of_resolve hroot
  rw [LeadsTo, start, Location.isAbsolute_join hne htarget, Location.steps_join hne htarget]
  exact (leadsTo_of_resolve hroot).append_iff

/-! ### Trees without links -/

def NoLinks (t : FileTree) : Prop := ∀ place text, t.entry? place ≠ some (.link text)

theorem noLinks_of_entries (h : ∀ e ∈ t.entries, ∀ text, e.2 ≠ .link text) : t.NoLinks := by
  intro place text hentry
  unfold entry? at hentry
  split at hentry
  · cases hentry
  · obtain ⟨before, after, hsplit, -⟩ := List.lookup_eq_some_iff.1 hentry
    exact h (place, .link text) (by simp [hsplit]) text rfl

theorem Leads.eq_foldl (hlinks : t.NoLinks) (h : t.Leads place xs found q) :
    q = xs.foldl Move.apply place := by
  induction h with
  | stop => rfl
  | up _ ih => exact ih
  | link hlink _ _ => exact absurd hlink (hlinks _ _)
  | name _ _ _ ih => exact ih
  | missing _ => rfl

theorem follow_eq_foldl (hlinks : t.NoLinks) {create : Bool} {links : Nat} {place : FilePlace}
    {ms : List Move} (h : t.follow create links place ms = .ok q) :
    q = (ms.filter (· ≠ .here)).foldl Move.apply place := by
  fun_induction follow t create links place ms with
  | case1 => exact (Except.ok.inj h).symm
  | case2 => cases h
  | case3 links place rest hfolder ih => simpa using ih h
  | case4 links place rest hfolder ih => simpa [Move.apply] using ih h
  | case5 => cases h
  | case6 links place rest hfolder name hlength next hnone hlast =>
    obtain ⟨-, hrest⟩ := Bool.and_eq_true_iff.1 hlast
    rw [List.isEmpty_iff.1 hrest]
    simpa [Move.apply, next] using (Except.ok.inj h).symm
  | case7 => cases h
  | case8 => cases h
  | case9 place rest hfolder name hlength next text hlink => exact absurd hlink (hlinks _ _)
  | case10 links place rest hfolder name hlength next e hnot hentry ih =>
    simpa [Move.apply, next] using ih h

theorem eq_foldl_of_resolveNew (hlinks : t.NoLinks) (h : t.resolveNew path = .ok q) :
    q = (steps path).foldl Move.apply (t.start path) := by
  unfold resolveNew at h
  split at h
  · cases h
  · exact follow_eq_foldl hlinks h

end FileTree
end StorePolicy

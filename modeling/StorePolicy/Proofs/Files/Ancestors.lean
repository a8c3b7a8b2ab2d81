import StorePolicy.Proofs.Files.Landing

/-!
# Ancestors of a path

The parent of a path is a beginning of its text. Where a path is not found since a name is missing, its
parent is found or is not found either, so the way up comes to no other fault; and a path below a
place that is found comes to that place before nothing is left of its text. Nothing is left of the
path of a file only where it is a single name.
-/
namespace StorePolicy

namespace Files

section Parts

variable {cs : List Char} {parts parts' : List (List Char)}

theorem joinSlashes_cons {part : List Char} (hne : parts ≠ []) :
    joinSlashes (part :: parts) = part ++ '/' :: joinSlashes parts := by
  cases parts with
  | nil => exact absurd rfl hne
  | cons next rest => rfl

theorem joinSlashes_splitSlashes (cs : List Char) : joinSlashes (splitSlashes cs) = cs := by
  induction cs with
  | nil => rfl
  | cons c cs ih =>
    rw [splitSlashes]
    split
    · next hc => rw [joinSlashes_cons (splitSlashes_ne_nil cs), ih, hc, List.nil_append]
    · cases hcs : splitSlashes cs with
      | nil => exact absurd hcs (splitSlashes_ne_nil cs)
      | cons part parts =>
        rw [hcs] at ih
        cases parts with
        | nil => exact congrArg (c :: ·) ih
        | cons next rest => exact congrArg (c :: ·) ih

theorem joinSlashes_prefix (h : parts <+: parts') : joinSlashes parts <+: joinSlashes parts' := by
  induction parts generalizing parts' with
  | nil => exact List.nil_prefix
  | cons part rest ih =>
    obtain ⟨more, rfl⟩ := h
    cases rest with
    | nil =>
      cases more with
      | nil => exact List.prefix_refl _
      | cons next more => exact List.prefix_append _ _
    | cons next rest =>
      exact (List.prefix_append_right_inj part).2 ((List.prefix_cons_inj '/').2
        (ih (List.prefix_append _ _)))

theorem length_splitSlashes_le (cs : List Char) : (splitSlashes cs).length ≤ cs.length + 1 := by
  induction cs with
  | nil => exact Nat.le_refl 1
  | cons c cs ih =>
    rw [splitSlashes]
    split
    · simpa using ih
    · cases hcs : splitSlashes cs with
      | nil => simp
      | cons part parts =>
        rw [hcs] at ih
        exact ih.trans (Nat.le_succ _)

theorem length_steps_le (path : String) : (steps path).length ≤ path.length + 1 := by
  have hparts : (steps path).length ≤ (splitSlashes path.toList).length := by
    rw [steps_eq, stepsOf]
    exact (List.length_filter_le _ _).trans (by simp)
  exact hparts.trans (length_splitSlashes_le path.toList)

end Parts

namespace Location

variable {path root target p : String} {parts : List (List Char)}

theorem assemble_prefix (h : parts <+: (front path.toList).2) :
    (assemble (front path.toList).1 parts).toList <+: path.toList := by
  have htext := joinSlashes_splitSlashes path.toList
  obtain ⟨rest, hslash, hcs, hfront⟩ | ⟨-, ⟨rest, hcs, hfront⟩ | hfront⟩ := front_cases path.toList
  · have hrest : rest ≠ [] := by
      rintro rfl
      rw [hcs] at htext
      rw [← htext] at hslash
      cases hslash
    rw [hfront] at h ⊢
    rw [hcs, joinSlashes_cons hrest] at htext
    rw [← htext]
    simpa [assemble, frontText] using joinSlashes_prefix h
  · rw [hfront] at h ⊢
    rw [hcs] at htext
    rw [← htext]
    have hbegin := joinSlashes_prefix ((List.prefix_cons_inj ['.']).2 h)
    cases parts with
    | nil => simpa [assemble, frontText, joinSlashes] using hbegin
    | cons part parts => simpa [assemble, joinSlashes] using hbegin
  · rw [hfront] at h ⊢
    simpa [assemble, frontText, htext] using joinSlashes_prefix h

def Anchored (path : String) : Prop := (front path.toList).1 ≠ none

theorem anchored_of_slash (h : path.toList.head? = some '/') : Anchored path := by
  obtain ⟨rest, -, -, hfront⟩ | ⟨hrelative, -⟩ := front_cases path.toList
  · simp [Anchored, hfront]
  · exact absurd h hrelative

theorem anchored_of_point {rest : List (List Char)} (h : splitSlashes path.toList = ['.'] :: rest) :
    Anchored path := by
  unfold Anchored front
  rw [h]
  simp only
  split <;> simp

theorem anchored_assemble (h : Anchored path) (hparts : parts <+: (front path.toList).2) :
    assemble (front path.toList).1 parts ≠ "" ∧ Anchored (assemble (front path.toList).1 parts) := by
  obtain ⟨rest, -, -, hfront⟩ | ⟨-, ⟨rest, -, hfront⟩ | hfront⟩ := front_cases path.toList
  · have hslash : (assemble (some .root) parts).toList.head? = some '/' := by
      simp [assemble, frontText]
    rw [hfront]
    refine ⟨fun hempty => ?_, anchored_of_slash hslash⟩
    rw [hempty] at hslash
    cases hslash
  · have hpoint : ∃ more, splitSlashes (assemble (some .here) parts).toList = ['.'] :: more := by
      cases parts with
      | nil => exact ⟨[], rfl⟩
      | cons part parts =>
        have htext : (assemble (some .here) (part :: parts)).toList =
            ['.'] ++ '/' :: joinSlashes (part :: parts) := by simp [assemble]
        rw [htext, splitSlashes_append_slash]
        exact ⟨_, rfl⟩
    obtain ⟨more, hmore⟩ := hpoint
    rw [hfront]
    refine ⟨fun hempty => ?_, anchored_of_point hmore⟩
    rw [hempty] at hmore
    cases hmore
  · exact absurd (congrArg Prod.fst hfront) h

theorem anchored_join (hroot : root ≠ "") (htarget : isAbsolute target = false)
    (hsteps : steps root = []) : Anchored (join root target) := by
  have hne : root.toList ≠ [] := by simpa using hroot
  cases hsplit : splitSlashes root.toList with
  | nil => exact absurd hsplit (splitSlashes_ne_nil _)
  | cons first rest =>
    have hidle : isIdle first = true := by
      rw [← ofPart_eq_here_iff]
      rw [steps_eq, hsplit, stepsOf, List.filter_eq_nil_iff] at hsteps
      simpa using hsteps (Move.ofPart first) List.mem_cons_self
    have hfirst : first = [] ∨ first = ['.'] := by simpa [isIdle] using hidle
    rcases hfirst with rfl | rfl
    · refine anchored_of_slash ?_
      have hslash : isAbsolute (join root target) = isAbsolute root := isAbsolute_join hroot htarget
      have habsolute : isAbsolute root = true :=
        decide_eq_true ((head_of_splitSlashes_nil hsplit).resolve_left hne)
      exact of_decide_eq_true (hslash.trans habsolute)
    · have htext := joinSlashes_splitSlashes root.toList
      rw [hsplit] at htext
      have hjoin : ∃ more, (join root target).toList = ['.'] ++ '/' :: more := by
        rw [join_of_relative hroot htarget]
        cases rest with
        | nil =>
          have hpoint : root.toList = ['.'] := htext.symm
          rw [hpoint, if_neg (by simp)]
          exact ⟨target.toList, by simp [String.toList_append, hpoint]⟩
        | cons part rest =>
          split
          · exact ⟨_, by rw [String.toList_append, ← htext]; rfl⟩
          · exact ⟨_, by rw [String.toList_append, String.toList_append, ← htext]; rfl⟩
      obtain ⟨more, hmore⟩ := hjoin
      have hparts : splitSlashes (join root target).toList = ['.'] :: splitSlashes more := by
        rw [hmore, splitSlashes_append_slash]
        rfl
      exact anchored_of_point hparts

theorem length_lt_join (hroot : root ≠ "") (htarget : isAbsolute target = false) :
    target.length < (join root target).length := by
  have hne : 0 < root.length := by
    rw [← String.length_toList, List.length_pos_iff]
    simpa using hroot
  rw [join_of_relative hroot htarget]
  split <;> simp only [String.length_append] <;> omega

theorem anchored_of_idle {first : List Char} {rest : List (List Char)} (hne : path ≠ "")
    (hsplit : splitSlashes path.toList = first :: rest) (hidle : isIdle first = true) :
    Anchored path := by
  have hcases : first = [] ∨ first = ['.'] := by simpa [isIdle] using hidle
  rcases hcases with rfl | rfl
  · exact anchored_of_slash ((head_of_splitSlashes_nil hsplit).resolve_left (by simpa using hne))
  · exact anchored_of_point hsplit

theorem parent?_of_single (hslash : '/' ∉ path.toList) (hidle : isIdle path.toList = false) :
    parent? path = some "" := by
  have hsplit := splitSlashes_of_not_mem hslash
  have hfront : front path.toList = (none, [path.toList]) := by
    obtain ⟨rest, hhead, -⟩ | ⟨-, ⟨rest, hpoint, -⟩ | hfront⟩ := front_cases path.toList
    · exact absurd (List.mem_of_head? hhead) hslash
    · rw [hsplit] at hpoint
      rw [(List.cons.inj hpoint).1] at hidle
      cases hidle
    · rwa [hsplit] at hfront
  simp [parent?, hfront, trimIdle, hidle, assemble, frontText, joinSlashes]

theorem not_mem_of_parent? {part : List Char} (hparent : parent? path = some "")
    (hlast : (splitSlashes path.toList).getLast? = some part) (hidle : isIdle part = false) :
    '/' ∉ path.toList := by
  have hmem : part ∈ splitSlashes path.toList := List.mem_of_getLast? hlast
  have hne : path ≠ "" := by
    rintro rfl
    cases hparent
  obtain ⟨hnil, -⟩ | ⟨m, parts, hparts, hassemble, hsteps⟩ := parent?_cases path
  · exact absurd (steps_eq path ▸ hnil) (stepsOf_ne_nil hmem hidle)
  have hempty : assemble (front path.toList).1 parts = "" :=
    Option.some_inj.1 (hassemble.symm.trans hparent)
  have hbare : ¬Anchored path := fun h => (anchored_assemble h hparts).1 hempty
  cases hsplit : splitSlashes path.toList with
  | nil => exact absurd hsplit (splitSlashes_ne_nil _)
  | cons first rest =>
    have hfirst : isIdle first = false := by
      rw [← Bool.not_eq_true]
      exact fun h => hbare (anchored_of_idle hne hsplit h)
    -- the path has one step, so nothing that counts follows its first part
    have hone : stepsOf [first] ++ stepsOf rest = [m] := by
      rw [← stepsOf_append, List.singleton_append, ← hsplit, ← steps_eq, hsteps, hempty]
      rfl
    have hrest : stepsOf rest = [] := by
      rw [stepsOf_singleton hfirst] at hone
      exact (List.cons.inj hone).2
    cases rest with
    | nil =>
      have htext : path.toList = first := by
        rw [← joinSlashes_splitSlashes path.toList, hsplit]
        rfl
      rw [htext]
      exact not_mem_of_mem_splitSlashes (hsplit ▸ List.mem_cons_self)
    | cons next rest =>
      have hnext : part ∈ next :: rest :=
        List.mem_of_getLast? (by rwa [hsplit, List.getLast?_cons_cons] at hlast)
      exact absurd hrest (stepsOf_ne_nil hnext hidle)

theorem parent?_of_last {part : List Char}
    (hlast : (splitSlashes path.toList).getLast? = some part) (hidle : isIdle part = false) :
    ∃ p, parent? path = some p ∧ (p = "" ↔ '/' ∉ path.toList) := by
  obtain ⟨hnil, -⟩ | ⟨m, parts, -, hparent, -⟩ := parent?_cases path
  · exact absurd (steps_eq path ▸ hnil) (stepsOf_ne_nil (List.mem_of_getLast? hlast) hidle)
  refine ⟨_, hparent, fun hempty => not_mem_of_parent? (hempty ▸ hparent) hlast hidle, fun hslash => ?_⟩
  obtain rfl : path.toList = part := by simpa [splitSlashes_of_not_mem hslash] using hlast
  exact Option.some_inj.1 (hparent.symm.trans (parent?_of_single hslash hidle))

end Location
end Files

namespace FileTree
open Files

variable {t : FileTree} {place base q : FilePlace} {links : Nat} {ms ms' : List Move}
  {path root p : String}

theorem follow_here (hfolder : t.isFolderAt place = true) :
    t.follow false links place (.here :: ms) = t.follow false links place ms := by
  rw [follow]
  simp [hfolder]

/-- How moves that lack the last step end, next to how the moves end: they fail only as these do, and
come to a folder unless these stop there. -/
def EndsBefore (t : FileTree) (cut whole : Except Fault FilePlace) : Prop :=
  (∀ f, cut = .error f → whole = .error f) ∧
    ∀ q, cut = .ok q → t.isFolderAt q = true ∨ whole = .error .notFolder

theorem endsBefore_of_error {f : Fault} : t.EndsBefore (.error f) (.error f) := by
  refine ⟨fun _ h => h, fun q h => ?_⟩
  cases h

theorem endsBefore_of_ok {whole : Except Fault FilePlace}
    (h : t.isFolderAt q = true ∨ whole = .error .notFolder) : t.EndsBefore (.ok q) whole := by
  refine ⟨fun f hf => ?_, fun q' hq' => ?_⟩
  · cases hf
  · obtain rfl := Except.ok.inj hq'
    exact h

theorem endsBefore_first {m last : Move} {whole : Except Fault FilePlace}
    (hfolder : t.isFolderAt place = true) (hm : m ≠ .here)
    (hsteps : (m :: ms).filter (· ≠ .here) = ms'.filter (· ≠ .here) ++ [last])
    (h : ∀ rest, ms.filter (· ≠ .here) = rest.filter (· ≠ .here) ++ [last] →
      t.EndsBefore (t.follow false links place (m :: rest)) whole) :
    t.EndsBefore (t.follow false links place ms') whole := by
  induction ms' with
  | nil =>
    rw [follow]
    exact endsBefore_of_ok (.inl hfolder)
  | cons first rest ih =>
    by_cases hfirst : first = .here
    · subst hfirst
      rw [follow_here hfolder]
      exact ih (by simpa using hsteps)
    · obtain ⟨rfl, hrest⟩ : m = first ∧
          ms.filter (· ≠ .here) = rest.filter (· ≠ .here) ++ [last] := by
        simpa [hm, hfirst] using hsteps
      exact h rest hrest

theorem endsBefore_follow {last : Move} :
    ∀ ms', ms.filter (· ≠ .here) = ms'.filter (· ≠ .here) ++ [last] →
      t.EndsBefore (t.follow false links place ms') (t.follow false links place ms) := by
  -- the moves that lack the last step take every other step the same way, or stop before it
  fun_induction follow t false links place ms with
  | case1 => simp
  | case2 links place move rest hfolder =>
    intro ms' hsteps
    cases ms' with
    | nil =>
      rw [follow]
      exact endsBefore_of_ok (.inr rfl)
    | cons first rest' =>
      rw [follow.eq_def]
      simpa [hfolder] using endsBefore_of_error
  | case3 links place rest hfolder ih =>
    intro ms' hsteps
    exact ih ms' (by simpa using hsteps)
  | case4 links place rest hfolder ih =>
    intro ms' hsteps
    have hfolder : t.isFolderAt place = true := by simpa using hfolder
    refine endsBefore_first hfolder (by simp) hsteps fun rest' hrest => ?_
    rw [follow]
    simpa [hfolder] using ih rest' hrest
  | case5 links place rest hfolder name hlength =>
    intro ms' hsteps
    have hfolder : t.isFolderAt place = true := by simpa using hfolder
    refine endsBefore_first hfolder (by simp) hsteps fun rest' hrest => ?_
    rw [follow]
    simpa [hfolder, hlength] using endsBefore_of_error
  | case6 links place rest hfolder name hlength next hnone hlast => cases hlast
  | case7 links place rest hfolder name hlength next hnone hlast =>
    intro ms' hsteps
    have hfolder : t.isFolderAt place = true := by simpa using hfolder
    refine endsBefore_first hfolder (by simp) hsteps fun rest' hrest => ?_
    rw [follow]
    simpa [hfolder, hlength, next, hnone] using endsBefore_of_error
  | case8 place rest hfolder name hlength next text hlink =>
    intro ms' hsteps
    have hfolder : t.isFolderAt place = true := by simpa using hfolder
    refine endsBefore_first hfolder (by simp) hsteps fun rest' hrest => ?_
    rw [follow]
    simpa [hfolder, hlength, next, hlink] using endsBefore_of_error
  | case9 place rest hfolder name hlength next text hlink links ih =>
    intro ms' hsteps
    have hfolder : t.isFolderAt place = true := by simpa using hfolder
    refine endsBefore_first hfolder (by simp) hsteps fun rest' hrest => ?_
    have hrest : (moves text ++ rest).filter (· ≠ .here) =
        (moves text ++ rest').filter (· ≠ .here) ++ [last] := by
      rw [List.filter_append, List.filter_append, hrest, List.append_assoc]
    rw [follow]
    simpa [hfolder, hlength, next, hlink] using ih _ hrest
  | case10 links place rest hfolder name hlength next e hnot hentry ih =>
    intro ms' hsteps
    have hfolder : t.isFolderAt place = true := by simpa using hfolder
    refine endsBefore_first hfolder (by simp) hsteps fun rest' hrest => ?_
    rw [follow]
    simpa [hfolder, hlength, next, hentry] using ih rest' hrest

theorem refuses_of_prefix (hp : p ≠ "") (htext : p.toList <+: path.toList)
    (h : refuses path = none) : refuses p = none := by
  obtain ⟨rest, hrest⟩ := htext
  have hpath : path = p ++ String.ofList rest := String.toList_injective (by simp [hrest])
  have hempty : p.isEmpty = false := by simpa using hp
  subst hpath
  unfold refuses at h ⊢
  split at h
  · cases h
  · split at h
    · cases h
    · next hnul =>
      split at h
      · cases h
      · next hlength =>
        have hnul' : '\x00' ∉ p.toList := by
          simp only [String.toList_append, List.contains_iff_mem, List.mem_append, not_or] at hnul
          exact hnul.1
        have hlength' : ¬maxPathBytes < p.utf8ByteSize := by
          rw [String.utf8ByteSize_append] at hlength
          omega
        simp [hempty, hnul', hlength']

/-- The parent of a path that is not refused is followed from the same place, without the last step. -/
theorem resolve_parent?_eq (hp : p ≠ "") (hparent : Location.parent? path = some p)
    (hrefuses : refuses path = none) :
    t.resolve p = t.follow false maxLinks (t.start path) (moves p) ∧
      ∃ last, (moves path).filter (· ≠ .here) = (moves p).filter (· ≠ .here) ++ [last] := by
  obtain ⟨-, hempty⟩ | ⟨m, parts, hparts, hassemble, hsteps⟩ := Location.parent?_cases path
  · exact absurd (hempty p hparent) hp
  · have hcut : p = Location.assemble (Location.front path.toList).1 parts :=
      Option.some_inj.1 (hparent.symm.trans hassemble)
    have hstart : t.start path = t.start p := by
      rw [start, start, hcut, (Location.isAbsolute_assemble hparts).resolve_left (hcut ▸ hp)]
    have hresolve := refuses_of_prefix hp (hcut ▸ Location.assemble_prefix hparts) hrefuses
    refine ⟨?_, m, hcut ▸ hsteps⟩
    rw [resolve, hresolve, hstart]

theorem resolve_parent? (hp : p ≠ "") (hparent : Location.parent? path = some p)
    (h : t.resolve path = .error .notFound) :
    (∃ q, t.resolve p = .ok q) ∨ t.resolve p = .error .notFound := by
  have hne : path ≠ "" := by
    rintro rfl
    cases hparent
  obtain ⟨hrefuses, hfollow⟩ := refuses_of_notFound hne h
  obtain ⟨hresolve, last, hsteps⟩ := resolve_parent?_eq (t := t) hp hparent hrefuses
  obtain ⟨herror, -⟩ := endsBefore_follow _ hsteps
  rw [hresolve]
  cases hend : t.follow false maxLinks (t.start path) (moves p) with
  | ok q => exact .inl ⟨q, rfl⟩
  | error f => exact .inr ((herror f hend).symm.trans hfollow)

theorem resolve_parent?_of_ok (hp : p ≠ "") (hparent : Location.parent? path = some p)
    (h : t.resolve path = .ok q) : ∃ r, t.resolve p = .ok r ∧ t.isFolderAt r = true := by
  unfold resolve at h
  split at h
  · cases h
  · next hrefuses =>
    obtain ⟨hresolve, last, hsteps⟩ := resolve_parent?_eq (t := t) hp hparent hrefuses
    have hbefore : t.EndsBefore _ (t.follow false maxLinks (t.start path) (moves path)) :=
      endsBefore_follow _ hsteps
    obtain ⟨herror, hfolder⟩ := hbefore
    rw [hresolve]
    cases hend : t.follow false maxLinks (t.start path) (moves p) with
    | ok r =>
      refine ⟨r, rfl, (hfolder r hend).resolve_right fun hstop => ?_⟩
      rw [h] at hstop
      cases hstop
    | error f =>
      rw [herror f hend] at h
      cases h

theorem getLast?_of_cons {m : Move} (hm : m ≠ .here) (h : (m :: ms).getLast? = some .here) :
    ms.getLast? = some .here := by
  cases ms with
  | nil => exact absurd (Option.some_inj.1 h) hm
  | cons next rest => rwa [List.getLast?_cons_cons] at h

theorem isFolderAt_of_follow {create : Bool} (h : t.follow create links place ms = .ok q)
    (hlast : ms.getLast? = some .here) : t.isFolderAt q = true := by
  fun_induction follow t create links place ms with
  | case1 => cases hlast
  | case2 | case5 | case7 | case8 => cases h
  | case3 links place rest hfolder ih =>
    cases rest with
    | nil =>
      rw [follow] at h
      obtain rfl := Except.ok.inj h
      simpa using hfolder
    | cons next rest => exact ih h (by rwa [List.getLast?_cons_cons] at hlast)
  | case4 links place rest hfolder ih => exact ih h (getLast?_of_cons (by simp) hlast)
  | case6 links place rest hfolder name hlength next hnone hend =>
    obtain ⟨-, rfl⟩ : create = true ∧ rest = [] := by simpa using hend
    cases hlast
  | case9 place rest hfolder name hlength next text hlink links ih =>
    refine ih h ?_
    rw [List.getLast?_append, getLast?_of_cons (by simp) hlast, Option.some_or]
  | case10 links place rest hfolder name hlength next e hnot hentry ih =>
    exact ih h (getLast?_of_cons (by simp) hlast)

theorem parent?_of_file (h : t.resolve path = .ok q) (hfile : t.isFolderAt q = false) :
    ∃ p, Location.parent? path = some p ∧ (p = "" ↔ '/' ∉ path.toList) := by
  unfold resolve at h
  split at h
  · cases h
  · cases hlast : (splitSlashes path.toList).getLast? with
    | none => exact absurd (List.getLast?_eq_none_iff.1 hlast) (splitSlashes_ne_nil _)
    | some part =>
      refine Location.parent?_of_last hlast (Bool.not_eq_true _ ▸ fun hidle => ?_)
      have hstays : (moves path).getLast? = some .here := by
        rw [moves, List.getLast?_map, hlast, Option.map_some, ofPart_eq_here_iff.2 hidle]
      rw [isFolderAt_of_follow h hstays] at hfile
      cases hfile

end FileTree
end StorePolicy

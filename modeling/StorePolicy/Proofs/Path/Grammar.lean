import StorePolicy.Path.Segment
import StorePolicy.Proofs.Text.Trim

/-!
# How JSON paths are written

The texts of the segments of a JSON path, as a grammar. A key outside of brackets has none of the
marks `.`, `[`, `]` and `$` in it, and blanks around it do not count. In brackets stands a key between
two quotes that the key lacks, a position, or a star. Two points in front of a segment are those of a
descent. The reader takes exactly the texts of the grammar, each for its segments.
-/
namespace StorePolicy.Path

open Text

structure WrittenName (name : String) (cs : List Char) : Prop where
  trimmed : trim cs = name.toList
  ne_empty : name ≠ ""
  unmarked : ∀ c ∈ cs, endsName c = false ∧ c ≠ ']' ∧ c ≠ '$'

inductive WrittenStep : Segment → List Char → Prop
  | all : WrittenStep .all ['*']
  | key {name : String} {cs : List Char} (h : WrittenName name cs) (hstar : cs.head? ≠ some '*') :
      WrittenStep (.key name) cs

inductive WrittenBracket : Segment → List Char → Prop
  | key {name : String} {quote : Char} (hquote : quote = '\'' ∨ quote = '"')
      (hlacks : quote ∉ name.toList) : WrittenBracket (.key name) (quote :: (name.toList ++ [quote, ']']))
  | all {cs : List Char} (h : trim cs = ['*']) (hclose : ']' ∉ cs) : WrittenBracket .all (cs ++ [']'])
  | position {cs : List Char} {i : Int} (h : position? (trim cs) = some i) (hclose : ']' ∉ cs) :
      WrittenBracket (.index i) (cs ++ [']'])

inductive WrittenSegment : Segment → List Char → Prop
  | step {s : Segment} {cs : List Char} (h : WrittenStep s cs) : WrittenSegment s ('.' :: cs)
  | bracket {s : Segment} {cs : List Char} (h : WrittenBracket s cs) : WrittenSegment s ('[' :: cs)
  | descendStep {s : Segment} {cs : List Char} (h : WrittenStep s cs) :
      WrittenSegment (.descend s) ('.' :: '.' :: cs)
  | descendBracket {s : Segment} {cs : List Char} (h : WrittenBracket s cs) :
      WrittenSegment (.descend s) ('.' :: '.' :: '[' :: cs)

inductive Written : List Segment → List Char → Prop
  | nil : Written [] []
  | cons {s : Segment} {cs : List Char} {ss : List Segment} {rest : List Char}
      (h : WrittenSegment s cs) (hrest : Written ss rest) : Written (s :: ss) (cs ++ rest)

inductive WrittenPath : List Segment → String → Prop
  | root {ss : List Segment} {cs : List Char} {path : String} (h : trim path.toList = '$' :: cs)
      (hcs : Written ss cs) : WrittenPath ss path
  | key {name : String} {ss : List Segment} {cs rest : List Char} {path : String}
      (h : trim path.toList = cs ++ rest) (hname : WrittenName name cs) (hrest : Written ss rest) :
      WrittenPath (.key name :: ss) path

variable {s : Segment} {ss : List Segment} {name : String} {cs rest : List Char}

/-- A text that a key in front of it ends at. -/
def Bounded (rest : List Char) : Prop := ∀ c ∈ rest.head?, endsName c = true

theorem Written.bounded (h : Written ss rest) : Bounded rest := by
  cases h with
  | nil => simp [Bounded]
  | cons h _ => cases h <;> simp [Bounded, endsName]

theorem cut_before {mark : Char} {body : List Char} (cs : List Char) (h : mark ∉ body) :
    (body ++ mark :: cs).takeWhile (· ≠ mark) = body ∧
      (body ++ mark :: cs).dropWhile (· ≠ mark) = mark :: cs := by
  have hbody : ∀ c ∈ body, decide (c ≠ mark) = true := by
    intro c hc
    exact decide_eq_true fun heq => h (heq ▸ hc)
  rw [List.takeWhile_append_of_pos hbody, List.dropWhile_append_of_pos hbody]
  simp

theorem takeWhile_append_of_dropWhile {q c : Char} {after : List Char}
    (h : cs.dropWhile (· ≠ q) = c :: after) : c = q ∧ cs = cs.takeWhile (· ≠ q) ++ c :: after := by
  have hc := List.head?_dropWhile_not (· ≠ q) cs
  rw [h] at hc
  refine ⟨by simpa using hc, ?_⟩
  rw [← h, List.takeWhile_append_dropWhile]

theorem not_mem_takeWhile_ne (mark : Char) (cs : List Char) : mark ∉ cs.takeWhile (· ≠ mark) := by
  intro hmem
  simpa using List.mem_takeWhile_imp hmem

theorem closeBracket_eq_some {t : Segment} (h : closeBracket t cs = some (s, rest)) :
    s = t ∧ cs = ']' :: rest := by
  unfold closeBracket at h
  split at h
  · cases h
    exact ⟨rfl, rfl⟩
  · cases h

theorem readName_append (h : WrittenName name cs) (hrest : Bounded rest) :
    readName (cs ++ rest) = some (name, rest) := by
  have hname : ∀ c ∈ cs, (!endsName c) = true := fun c hc => by simp [(h.unmarked c hc).1]
  have hcut : rest.takeWhile (!endsName ·) = [] ∧ rest.dropWhile (!endsName ·) = rest := by
    cases rest with
    | nil => exact ⟨rfl, rfl⟩
    | cons c rest => simp [hrest c rfl]
  have hmarks : ']' ∉ trim cs ∧ '$' ∉ trim cs :=
    ⟨fun hmem => (h.unmarked _ (mem_of_mem_trim hmem)).2.1 rfl,
      fun hmem => (h.unmarked _ (mem_of_mem_trim hmem)).2.2 rfl⟩
  rw [h.trimmed] at hmarks
  simp [readName, List.takeWhile_append_of_pos hname, List.dropWhile_append_of_pos hname, hcut,
    h.trimmed, h.ne_empty, hmarks]

theorem writtenName_of_readName {text : List Char} (h : readName text = some (name, rest)) :
    ∃ cs, text = cs ++ rest ∧ WrittenName name cs := by
  simp only [readName] at h
  split at h
  · cases h
  · next hmarks =>
    cases h
    simp only [Bool.or_eq_true, List.isEmpty_iff, List.contains_iff_mem, not_or] at hmarks
    obtain ⟨⟨hne, hclose⟩, hroot⟩ := hmarks
    refine ⟨_, (List.takeWhile_append_dropWhile).symm, ?_, ?_, fun c hc => ⟨?_, ?_, ?_⟩⟩
    · rw [String.toList_ofList]
    · simpa using hne
    · simpa using List.mem_takeWhile_imp hc
    · rintro rfl
      exact hclose (mem_trim hc (by decide))
    · rintro rfl
      exact hroot (mem_trim hc (by decide))

theorem WrittenName.head (h : WrittenName name cs) :
    ∃ c rest, cs = c :: rest ∧ endsName c = false ∧ c ≠ '$' := by
  cases cs with
  | nil => exact absurd (String.toList_eq_nil_iff.1 h.trimmed.symm) h.ne_empty
  | cons c rest =>
    have hc := h.unmarked c List.mem_cons_self
    exact ⟨c, rest, rfl, hc.1, hc.2.2⟩

theorem readStep_append (h : WrittenStep s cs) (hrest : Bounded rest) :
    readStep (cs ++ rest) = some (s, rest) := by
  cases h with
  | all => rfl
  | @key name cs h hstar =>
    have hread := readName_append h hrest
    obtain ⟨c, cs, rfl, -, -⟩ := h.head
    have hc : c ≠ '*' := by simpa using hstar
    have hstep : readStep (c :: (cs ++ rest)) =
        (readName (c :: (cs ++ rest))).map fun named => (.key named.1, named.2) := by
      rw [readStep.eq_def]
      split <;> simp_all
    rw [List.cons_append, hstep, ← List.cons_append, hread]
    rfl

theorem WrittenStep.head (h : WrittenStep s cs) :
    ∃ c rest, cs = c :: rest ∧ c ≠ '.' ∧ c ≠ '[' ∧ c ≠ '$' := by
  cases h with
  | all => exact ⟨'*', [], rfl, by decide, by decide, by decide⟩
  | key h _ =>
    obtain ⟨c, cs, rfl, hends, hroot⟩ := h.head
    have hc : c ≠ '.' ∧ c ≠ '[' := by simpa [endsName] using hends
    exact ⟨c, cs, rfl, hc.1, hc.2, hroot⟩

theorem writtenStep_of_readStep {text : List Char} (h : readStep text = some (s, rest)) :
    ∃ cs, text = cs ++ rest ∧ WrittenStep s cs := by
  rw [readStep.eq_def] at h
  split at h
  · cases h
    exact ⟨['*'], rfl, .all⟩
  · next hstar =>
    obtain ⟨⟨name, rest⟩, hread, heq⟩ := Option.map_eq_some_iff.1 h
    cases heq
    obtain ⟨cs, rfl, hname⟩ := writtenName_of_readName hread
    refine ⟨cs, rfl, .key hname fun hhead => ?_⟩
    obtain ⟨tail, rfl⟩ := List.head?_eq_some_iff.1 hhead
    exact hstar (tail ++ rest) rfl

theorem mem_position? {c : Char} {i : Int} (h : position? cs = some i) (hc : c ∈ cs) :
    c = '-' ∨ c = '+' ∨ c.isDigit = true := by
  have hdigit : ∀ {digits : List Char} {x : Option Int},
      (if digits.isEmpty || !digits.all Char.isDigit then none else x) = some i → c ∈ digits →
        c.isDigit = true := by
    intro digits x h hmem
    split at h
    · cases h
    · next hall =>
      have hdigits : ¬digits = [] ∧ ∀ c ∈ digits, c.isDigit = true := by simpa using hall
      exact hdigits.2 c hmem
  simp only [position?] at h
  split at h
  · exact (List.mem_cons.1 hc).imp_right fun hmem => .inr (hdigit h hmem)
  · exact .inr ((List.mem_cons.1 hc).imp_right (hdigit h))
  · exact .inr (.inr (hdigit h hc))

theorem readBracket_unquoted (hclose : ']' ∉ cs) (hquotes : ∀ c ∈ cs, c ≠ '\'' ∧ c ≠ '"')
    (rest : List Char) :
    readBracket (cs ++ ']' :: rest) =
      if trim cs = ['*'] then some (.all, rest)
      else (position? (trim cs)).map fun i => (.index i, rest) := by
  obtain ⟨htake, hdrop⟩ := cut_before rest hclose
  rw [readBracket.eq_def]
  split
  · next heq =>
    cases cs with
    | nil => cases heq
    | cons c cs => exact absurd (List.cons.inj heq).1 (hquotes c List.mem_cons_self).1
  · next heq =>
    cases cs with
    | nil => cases heq
    | cons c cs => exact absurd (List.cons.inj heq).1 (hquotes c List.mem_cons_self).2
  · simp only [htake, hdrop, closeBracket]
    split
    · rfl
    · cases position? (trim cs) <;> rfl

theorem readBracket_append (h : WrittenBracket s cs) (rest : List Char) :
    readBracket (cs ++ rest) = some (s, rest) := by
  cases h with
  | @key name quote hquote hlacks =>
    obtain ⟨htake, hdrop⟩ := cut_before (']' :: rest) hlacks
    have hname : String.ofList name.toList = name := String.ofList_toList
    have htext : quote :: (name.toList ++ [quote, ']']) ++ rest =
        quote :: (name.toList ++ quote :: ']' :: rest) := by simp
    rw [htext]
    rcases hquote with rfl | rfl <;>
      simp only [readBracket, htake, hdrop, hname, List.drop_succ_cons, List.drop_zero, closeBracket]
  | @all cs h hclose =>
    have hquotes : ∀ c ∈ cs, c ≠ '\'' ∧ c ≠ '"' := by
      intro c hc
      constructor <;>
      · rintro rfl
        simpa [h] using mem_trim hc (by decide)
    rw [List.append_assoc, List.singleton_append, readBracket_unquoted hclose hquotes, if_pos h]
  | @position cs i h hclose =>
    have hquotes : ∀ c ∈ cs, c ≠ '\'' ∧ c ≠ '"' := by
      intro c hc
      constructor <;>
      · rintro rfl
        simpa using mem_position? h (mem_trim hc (by decide))
    have hstar : trim cs ≠ ['*'] := by
      intro hstar
      simpa [hstar] using mem_position? h (c := '*')
    rw [List.append_assoc, List.singleton_append, readBracket_unquoted hclose hquotes, if_neg hstar, h]
    rfl

theorem writtenBracket_of_quoted {text : List Char} {quote : Char} (hquote : quote = '\'' ∨ quote = '"')
    (h : closeBracket (.key (String.ofList (text.takeWhile (· ≠ quote))))
      ((text.dropWhile (· ≠ quote)).drop 1) = some (s, rest)) :
    ∃ cs, quote :: text = cs ++ rest ∧ WrittenBracket s cs := by
  obtain ⟨rfl, hclose⟩ := closeBracket_eq_some h
  cases hdrop : text.dropWhile (· ≠ quote) with
  | nil => cases hdrop ▸ hclose
  | cons c after =>
    obtain ⟨rfl, htext⟩ := takeWhile_append_of_dropWhile hdrop
    obtain rfl : after = ']' :: rest := by rwa [hdrop] at hclose
    have hlacks := not_mem_takeWhile_ne c text
    generalize text.takeWhile (· ≠ c) = name at htext hlacks
    refine ⟨_, ?_, .key hquote (by rwa [String.toList_ofList])⟩
    rw [String.toList_ofList, htext]
    simp

theorem writtenBracket_of_readBracket {text : List Char} (h : readBracket text = some (s, rest)) :
    ∃ cs, text = cs ++ rest ∧ WrittenBracket s cs := by
  rw [readBracket.eq_def] at h
  split at h
  · exact writtenBracket_of_quoted (.inl rfl) h
  · exact writtenBracket_of_quoted (.inr rfl) h
  · dsimp only at h
    have hbracket : ∀ t, closeBracket t (text.dropWhile (· ≠ ']')) = some (s, rest) →
        s = t ∧ text = text.takeWhile (· ≠ ']') ++ [']'] ++ rest := by
      intro t ht
      obtain ⟨hs, hclose⟩ := closeBracket_eq_some ht
      refine ⟨hs, ?_⟩
      rw [List.append_assoc]
      exact (takeWhile_append_of_dropWhile hclose).2
    split at h
    · next hstar =>
      obtain ⟨rfl, htext⟩ := hbracket _ h
      exact ⟨_, htext, .all hstar (not_mem_takeWhile_ne _ _)⟩
    · obtain ⟨i, hi, hindex⟩ := Option.bind_eq_some_iff.1 h
      obtain ⟨rfl, htext⟩ := hbracket _ hindex
      exact ⟨_, htext, .position hi (not_mem_takeWhile_ne _ _)⟩

theorem readSegment_append (h : WrittenSegment s cs) (hrest : Bounded rest) :
    readSegment (cs ++ rest) = some (s, rest) := by
  cases h with
  | @step s cs h =>
    have hread := readStep_append h hrest
    obtain ⟨c, cs, rfl, hpoint, -⟩ := h.head
    rwa [List.cons_append, List.cons_append, readSegment.eq_3 _ (fun _ heq => hpoint (List.cons.inj heq).1)
      fun _ heq => hpoint (List.cons.inj heq).1]
  | @bracket s cs h => exact readBracket_append h rest
  | @descendStep s cs h =>
    have hread := readStep_append h hrest
    obtain ⟨c, cs, rfl, -, hopen, -⟩ := h.head
    rw [List.cons_append, List.cons_append, List.cons_append,
      readSegment.eq_2 _ fun _ heq => hopen (List.cons.inj heq).1, ← List.cons_append, hread]
    rfl
  | @descendBracket s cs h => exact congrArg (Option.map _) (readBracket_append h rest)

theorem writtenSegment_of_readSegment {text : List Char} (h : readSegment text = some (s, rest)) :
    ∃ cs, text = cs ++ rest ∧ WrittenSegment s cs := by
  rw [readSegment.eq_def] at h
  split at h
  · obtain ⟨⟨inner, rest⟩, hread, heq⟩ := Option.map_eq_some_iff.1 h
    cases heq
    obtain ⟨cs, rfl, hcs⟩ := writtenBracket_of_readBracket hread
    exact ⟨_, rfl, .descendBracket hcs⟩
  · obtain ⟨⟨inner, rest⟩, hread, heq⟩ := Option.map_eq_some_iff.1 h
    cases heq
    obtain ⟨cs, rfl, hcs⟩ := writtenStep_of_readStep hread
    exact ⟨_, rfl, .descendStep hcs⟩
  · obtain ⟨cs, rfl, hcs⟩ := writtenStep_of_readStep h
    exact ⟨_, rfl, .step hcs⟩
  · obtain ⟨cs, rfl, hcs⟩ := writtenBracket_of_readBracket h
    exact ⟨_, rfl, .bracket hcs⟩
  · cases h

theorem WrittenSegment.length_pos (h : WrittenSegment s cs) : 0 < cs.length := by
  cases h <;> simp

theorem readSegments_of_written (h : Written ss cs) {fuel : Nat} (hfuel : cs.length ≤ fuel) :
    readSegments fuel cs = some ss := by
  induction h generalizing fuel with
  | nil => exact readSegments.eq_1 fuel
  | @cons s cs ss rest h hrest ih =>
    have hpos := h.length_pos
    rw [List.length_append] at hfuel
    obtain ⟨fuel, rfl⟩ : ∃ n, fuel = n + 1 := ⟨fuel - 1, by omega⟩
    have hne : cs ++ rest ≠ [] := fun hnil => by simp [(List.append_eq_nil_iff.1 hnil).1] at hpos
    have hread : readSegments fuel rest = some ss := ih (by omega)
    rw [readSegments.eq_3 _ _ hne, readSegment_append h hrest.bounded]
    simp only [hread, Option.map_some]

theorem written_of_readSegments {fuel : Nat} (h : readSegments fuel cs = some ss) : Written ss cs := by
  induction fuel generalizing cs ss with
  | zero =>
    cases cs with
    | nil =>
      obtain rfl := Option.some_inj.1 h
      exact .nil
    | cons c cs => cases h
  | succ fuel ih =>
    cases cs with
    | nil =>
      obtain rfl := Option.some_inj.1 h
      exact .nil
    | cons c cs =>
      rw [readSegments.eq_3 _ _ (List.cons_ne_nil c cs)] at h
      split at h
      · cases h
      · next s rest hread =>
        obtain ⟨ss, hss, rfl⟩ := Option.map_eq_some_iff.1 h
        obtain ⟨first, htext, hfirst⟩ := writtenSegment_of_readSegment hread
        exact htext ▸ .cons hfirst (ih hss)

/-- A text is taken for a list of segments exactly if the grammar has it as their text. -/
theorem segments?_eq_some_iff {path : String} : segments? path = some ss ↔ WrittenPath ss path := by
  rw [segments?]
  constructor
  · intro h
    cases hpath : trim path.toList with
    | nil => simp [hpath, segmentsOf] at h
    | cons c cs =>
      rw [hpath] at h
      by_cases hc : c = '$'
      · subst hc
        exact .root hpath (written_of_readSegments h)
      · rw [segmentsOf.eq_3 _ (List.cons_ne_nil c cs) fun rest heq => hc (List.cons.inj heq).1] at h
        obtain ⟨⟨name, rest⟩, hread, hrest⟩ := Option.bind_eq_some_iff.1 h
        obtain ⟨ss, hss, rfl⟩ := Option.map_eq_some_iff.1 hrest
        obtain ⟨first, htext, hname⟩ := writtenName_of_readName hread
        exact .key (hpath.trans htext) hname (written_of_readSegments hss)
  · rintro (⟨hpath, hcs⟩ | ⟨hpath, hname, hrest⟩)
    · rw [hpath]
      exact readSegments_of_written hcs (Nat.le_refl _)
    · obtain ⟨c, first, rfl, -, hc⟩ := hname.head
      rw [hpath, List.cons_append, segmentsOf.eq_3 _ (List.cons_ne_nil c _) fun _ heq =>
        hc (List.cons.inj heq).1, ← List.cons_append, readName_append hname hrest.bounded,
        Option.bind_some]
      simp only [readSegments_of_written hrest (Nat.le_refl _), Option.map_some]

example : segments? "$..k.*[ * ]..['a.b'][-1]..*" =
    some [.descend (.key "k"), .all, .all, .descend (.key "a.b"), .index (-1), .descend .all] := by
  decide

end StorePolicy.Path

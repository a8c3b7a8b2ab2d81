import StorePolicy.Path.Strategy
import StorePolicy.Proofs.Path.PlainKeys
import StorePolicy.Proofs.Path.Selection

/-!
# Addresses

A branch leads down from a value by a key or by a position, and a list of branches, followed one after
the other, to a place below it. It is written as a JSON path of brackets: a position as a number, and a
key between two quotes of a kind that the key lacks, whatever else it holds. Such a path is read back as
these branches, and selects the value that they lead to.
-/
namespace StorePolicy.Path

open Text

inductive Branch where
  | key (name : String)
  | position (i : Int64)
deriving DecidableEq

def Branch.enter : Branch → Json → Option Json
  | .key name, .obj members => members.lookup name
  | .position i, .arr items =>
    if i.toInt < 0 then items.reverse[(-i.toInt - 1).toNat]? else items[i.toInt.toNat]?
  | _, _ => none

def reach (branches : List Branch) (j : Json) : Option Json := branches.foldlM (fun j b => b.enter j) j

inductive Bracketed : List Branch → List Char → Prop
  | nil : Bracketed [] []
  | key {name : String} {quote : Char} {branches : List Branch} {cs : List Char}
      (hquote : quote = '\'' ∨ quote = '"') (hlacks : quote ∉ name.toList)
      (hrest : Bracketed branches cs) :
      Bracketed (.key name :: branches) ('[' :: quote :: (name.toList ++ quote :: ']' :: cs))
  | position {i : Int64} {branches : List Branch} {cs : List Char} (hrest : Bracketed branches cs) :
      Bracketed (.position i :: branches) ('[' :: ((toString i.toInt).toList ++ ']' :: cs))

def Addresses (path : String) (branches : List Branch) : Prop :=
  ∃ cs, path.toList = '$' :: cs ∧ Bracketed branches cs

def Branch.segment : Branch → Segment
  | .key name => .key name
  | .position i => .index i.toInt

variable {branches : List Branch} {cs rest : List Char} {j : Json}

theorem Branch.select_segment (b : Branch) (j : Json) : b.segment.select j = (b.enter j).toList := by
  rw [Segment.select_eq_picks]
  cases b <;> cases j <;> rfl

section Reading

theorem foldl_toDigits (n : Nat) :
    (Nat.toDigits 10 n).foldl (fun n d => n * 10 + (d.toNat - 48)) 0 = n := by
  have hstep : (fun (n : Nat) (d : Char) => n * 10 + (d.toNat - 48)) =
      fun n d => 10 * n + (d.toNat - '0'.toNat) := by
    funext n d
    rw [Nat.mul_comm]
    rfl
  rw [hstep, ← Nat.ofDigitChars_eq_foldl, Nat.ofDigitChars_ten_toDigits]

theorem isDigit_of_mem_toDigits {n : Nat} {c : Char} (h : c ∈ Nat.toDigits 10 n) :
    c.isDigit = true := Nat.isDigit_of_mem_toDigits (by decide) (by decide) h

theorem all_isDigit_toDigits (n : Nat) : (Nat.toDigits 10 n).all Char.isDigit = true :=
  List.all_eq_true.2 fun _ hc => isDigit_of_mem_toDigits hc

theorem isEmpty_toDigits (n : Nat) : (Nat.toDigits 10 n).isEmpty = false := by simp

theorem position?_minus {n : Nat} (h : -(Nat.pow 2 63 : Int) ≤ -(n : Int)) :
    position? ('-' :: Nat.toDigits 10 n) = some (-(n : Int)) := by
  have hbounds : -(Nat.pow 2 63 : Int) ≤ -(n : Int) ∧ -(n : Int) < (Nat.pow 2 63 : Int) :=
    ⟨h, by simp only [Nat.pow_eq]; omega⟩
  simp only [position?, isEmpty_toDigits, all_isDigit_toDigits, foldl_toDigits, Bool.not_true, Bool.or_false,
    Bool.false_eq_true, if_false, if_true, if_pos hbounds]

theorem position?_digits {n : Nat} (h : (n : Int) < (Nat.pow 2 63 : Int)) :
    position? (Nat.toDigits 10 n) = some (n : Int) := by
  have hunsigned : ∀ c ∈ Nat.toDigits 10 n, c ≠ '-' ∧ c ≠ '+' := by
    intro c hc
    have hdigit := isDigit_of_mem_toDigits hc
    constructor <;>
    · rintro rfl
      simp at hdigit
  have hall := all_isDigit_toDigits n
  have hempty := isEmpty_toDigits n
  have hvalue := foldl_toDigits n
  cases hdigits : Nat.toDigits 10 n with
  | nil => simp [hdigits] at hempty
  | cons c cs =>
    rw [hdigits] at hunsigned hall hvalue
    obtain ⟨hminus, hplus⟩ := hunsigned c List.mem_cons_self
    simpa [position?, hminus, hplus, hall, hvalue] using h

theorem position?_toString (i : Int64) : position? (toString i.toInt).toList = some i.toInt := by
  have hlower : -(Nat.pow 2 63 : Int) ≤ i.toInt := i.le_toInt
  have hupper : i.toInt < (Nat.pow 2 63 : Int) := i.toInt_lt
  rw [Int.toString_eq_repr, Int.repr_eq_if]
  split
  · next hi =>
    have hvalue : ((i.toInt.toNat : Nat) : Int) = i.toInt := Int.toNat_of_nonneg hi
    rw [Nat.toList_repr, position?_digits (by rw [hvalue]; exact hupper), hvalue]
  · next hi =>
    have hvalue : -(((-i.toInt).toNat : Nat) : Int) = i.toInt := by omega
    have htext : ("-" ++ (-i.toInt).toNat.repr).toList = '-' :: Nat.toDigits 10 (-i.toInt).toNat := by
      simp
    rw [htext, position?_minus (by rw [hvalue]; exact hlower), hvalue]

theorem mem_toString {i : Int} {c : Char} (h : c ∈ (toString i).toList) :
    c = '-' ∨ c.isDigit = true := by
  rw [Int.toString_eq_repr, Int.repr_eq_if] at h
  split at h
  · rw [Nat.toList_repr] at h
    exact .inr (isDigit_of_mem_toDigits h)
  · rw [String.toList_append, Nat.toList_repr, List.mem_append] at h
    exact h.imp (by simp) isDigit_of_mem_toDigits

theorem isBlank_of_isDigit {c : Char} (h : c.isDigit = true) : isBlank c = false := by
  simp [Char.isDigit, isBlank, UInt32.le_iff_toNat_le] at h ⊢
  omega

theorem writtenBracket_position (i : Int64) :
    WrittenBracket (.index i.toInt) ((toString i.toInt).toList ++ [']']) := by
  have htight : Tight (toString i.toInt).toList := by
    refine tight_of_forall fun c hc => ?_
    rcases mem_toString hc with rfl | hdigit
    · decide
    · exact isBlank_of_isDigit hdigit
  refine .position ?_ fun hclose => by simpa using mem_toString hclose
  rw [htight.trim_eq]
  exact position?_toString i

theorem Bracketed.written (h : Bracketed branches cs) : Written (branches.map Branch.segment) cs := by
  induction h with
  | nil => exact .nil
  | key hquote hlacks _ ih =>
    simpa [Branch.segment] using Written.cons (.bracket (.key hquote hlacks)) ih
  | @position i _ _ _ ih =>
    simpa [Branch.segment] using Written.cons (.bracket (writtenBracket_position i)) ih

theorem last_bracket (body : List Char) (h : ∀ c ∈ cs.getLast?, isBlank c = false) :
    ∀ c ∈ (body ++ ']' :: cs).getLast?, isBlank c = false := by
  intro c hc
  rw [List.getLast?_append, List.getLast?_cons] at hc
  cases hlast : cs.getLast? with
  | none =>
    obtain rfl : ']' = c := by simpa [hlast] using hc
    decide
  | some d =>
    obtain rfl : d = c := by simpa [hlast] using hc
    exact h d hlast

theorem Bracketed.last (h : Bracketed branches cs) : ∀ c ∈ cs.getLast?, isBlank c = false := by
  induction h with
  | nil => simp
  | @key name quote branches cs hquote hlacks hrest ih =>
    simpa using last_bracket ('[' :: quote :: (name.toList ++ [quote])) ih
  | @position i branches cs hrest ih =>
    exact last_bracket ('[' :: (toString i.toInt).toList) ih

theorem segments?_of_addresses {path : String} (h : Addresses path branches) :
    segments? path = some (branches.map Branch.segment) := by
  obtain ⟨cs, hpath, hcs⟩ := h
  have hroot : Tight ['$'] := tight_of_all (by decide)
  have htrim : trim ('$' :: cs) = '$' :: cs := (hroot.append (List.cons_ne_nil _ _) hcs.last).trim_eq
  exact segments?_eq_some_iff.2 (.root (hpath ▸ htrim) hcs.written)

end Reading

theorem exists_bracketed
    (h : ∀ name, Branch.key name ∈ branches → '\'' ∉ name.toList ∨ '"' ∉ name.toList) :
    ∃ cs, Bracketed branches cs := by
  induction branches with
  | nil => exact ⟨[], .nil⟩
  | cons b branches ih =>
    obtain ⟨cs, hcs⟩ := ih fun name hname => h name (List.mem_cons_of_mem b hname)
    cases b with
    | key name =>
      rcases h name List.mem_cons_self with hsingle | hdouble
      · exact ⟨_, .key (.inl rfl) hsingle hcs⟩
      · exact ⟨_, .key (.inr rfl) hdouble hcs⟩
    | position i => exact ⟨_, .position hcs⟩

/-- Keys and positions can be written as an address, whatever the keys hold beside one of the quotes.
However it is written, the address is a path that selects the one value that they lead to, or nothing
if they lead nowhere. -/
theorem resolve_address_eq_reach
    (h : ∀ name, Branch.key name ∈ branches → '\'' ∉ name.toList ∨ '"' ∉ name.toList) :
    (∃ path, Addresses path branches) ∧ ∀ path, Addresses path branches →
      ∀ j, Strategy.jsonPath.resolve j path = some (reach branches j).toList := by
  constructor
  · obtain ⟨cs, hcs⟩ := exists_bracketed h
    exact ⟨String.ofList ('$' :: cs), cs, String.toList_ofList, hcs⟩
  · intro path hpath j
    rw [Strategy.resolve, matches?, segments?_of_addresses hpath, Option.map_some, reach,
      selectAll_map Branch.select_segment]

theorem resolve_address_eq_reach_of_marked_key :
    let branches : List Branch := [.key "it's [0].$ ", .position (-1), .key ""]
    let path : String := "$[\"it's [0].$ \"][-1]['']"
    let j : Json := .obj [("it's [0].$ ", .arr [.null, .obj [("", .int 7)]])]
    (∀ name, Branch.key name ∈ branches → '\'' ∉ name.toList ∨ '"' ∉ name.toList) ∧
      Addresses path branches ∧ reach branches j = some (.int 7) ∧
      Strategy.jsonPath.resolve j path = some [.int 7] := by
  intro branches path j
  have hnames : ∀ name, Branch.key name ∈ branches → '\'' ∉ name.toList ∨ '"' ∉ name.toList := by
    intro name hname
    simp only [branches, List.mem_cons, Branch.key.injEq, reduceCtorEq, List.not_mem_nil, or_false,
      false_or] at hname
    rcases hname with rfl | rfl
    · exact .inr (by decide)
    · exact .inl (by decide)
  have hpath : Addresses path branches :=
    ⟨_, by decide, .key (.inr rfl) (by decide) (.position (.key (.inl rfl) (by decide) .nil))⟩
  have hreach : reach branches j = some (.int 7) := rfl
  have hresolve := (resolve_address_eq_reach hnames).2 path hpath j
  rw [hreach] at hresolve
  exact ⟨hnames, hpath, hreach, hresolve⟩

end StorePolicy.Path

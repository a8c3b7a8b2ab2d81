import StorePolicy.Value

/-!
# Values under their tags

Values are mostly read through their tags, so most questions about a value are about what is
under them. The entries of a mapping are found by keys that are plain texts, or seen as values
under the names that their keys spell with or without tags.
-/
namespace StorePolicy

namespace Value

def isText : Value → Bool
  | .str _ => true
  | _ => false

theorem isNull_iff_untagged {v : Value} : v.isNull = true ↔ v.untagged = .null := by
  fun_induction isNull v with
  | case1 => simp [untagged]
  | case2 t v ih => simpa [untagged] using ih
  | case3 v h1 h2 => cases v <;> simp_all [untagged]

theorem asText?_eq_some_iff {v : Value} {s : String} :
    v.asText? = some s ↔ v.untagged = .str s := by
  fun_induction asText? v with
  | case1 t => simp [untagged]
  | case2 t v ih => simpa [untagged] using ih
  | case3 v h1 h2 => cases v <;> simp_all [untagged]

theorem entries?_eq_some_iff {v : Value} {es : List (Value × Value)} :
    v.entries? = some es ↔ v.untagged = .map es := by
  fun_induction entries? v with
  | case1 es' => simp [untagged]
  | case2 t v ih => simpa [untagged] using ih
  | case3 v h1 h2 => cases v <;> simp_all [untagged]

theorem items?_eq_some_iff {v : Value} {vs : List Value} :
    v.items? = some vs ↔ v.untagged = .seq vs := by
  fun_induction items? v with
  | case1 vs' => simp [untagged]
  | case2 t v ih => simpa [untagged] using ih
  | case3 v h1 h2 => cases v <;> simp_all [untagged]

theorem items?_eq_none_of_isNull {v : Value} (h : v.isNull = true) : v.items? = none := by
  rw [Option.eq_none_iff_forall_ne_some]
  intro vs hvs
  rw [items?_eq_some_iff, isNull_iff_untagged.1 h] at hvs
  cases hvs

theorem entries?_eq_none_of_isNull {v : Value} (h : v.isNull = true) : v.entries? = none := by
  rw [Option.eq_none_iff_forall_ne_some]
  intro es hes
  rw [entries?_eq_some_iff, isNull_iff_untagged.1 h] at hes
  cases hes

theorem isNull_of_entries? {v : Value} {es : List (Value × Value)} (h : v.entries? = some es) :
    v.isNull = false := by
  rw [Bool.eq_false_iff]
  intro hnull
  rw [entries?_eq_none_of_isNull hnull] at h
  cases h

def named (es : List (Value × Value)) : List (String × Value) :=
  es.map fun e => (e.1.asText?.getD "", e.2)

end Value

def isKey (key : String) (e : Value × Value) : Bool :=
  match e.1 with
  | .str k => k == key
  | _ => false

theorem isKey_iff {key : String} {e : Value × Value} : isKey key e = true ↔ e.1 = .str key := by
  unfold isKey
  split <;> simp_all

theorem lookupKey_cons (key : String) (e : Value × Value) (rest : List (Value × Value)) :
    lookupKey key (e :: rest) = if isKey key e then some e.2 else lookupKey key rest := by
  obtain ⟨k, v⟩ := e
  cases k <;> simp [lookupKey, isKey]

end StorePolicy

import StorePolicy.Check.Build
import StorePolicy.Check.Run

/-!
# What conditions mean

The truth of a condition is a recursion over its tree: a leaf is what the files say of its
target, and a composite joins the truths of all its children. With the sandbox on a leaf is
false unless its target lies inside the project, by its text and by the files. A check that is
built from a condition and then run, however few of its parts are asked, finds that truth.
-/
namespace StorePolicy

namespace Condition

def textOf (t : FileTree) (root target : String) : Option String :=
  (t.readText (Files.Location.join root target)).toOption

def matchesText (pattern text : String) : Bool :=
  match Pattern.compile pattern with
  | .ok p => p.isMatch text
  | .error _ => false

def hasElement (path text : String) : Bool :=
  match Xml.ElementPath.compile path, Xml.Document.ofString text with
  | .ok p, .ok d => d.matchesPath p
  | _, _ => false

/-- What the files say of the target of a leaf. -/
def verdict (t : FileTree) (strategies : List Path.Strategy) (root : String) : Condition → Bool
  | .fileExists target => t.exists? (Files.Location.join root target)
  | .fileNotExists target => !t.exists? (Files.Location.join root target)
  | .jsonPathExists target path =>
    ((textOf t root target).bind Json.parse?).any fun j => Path.reaches strategies j path
  | .jsonPathEquals target path value =>
    ((textOf t root target).bind Json.parse?).any fun j =>
      (Path.first strategies j path).any fun v => v.same value
  | .jsonPathMatches target path pattern =>
    ((textOf t root target).bind Json.parse?).any fun j =>
      (Path.first strategies j path).any fun v => !v.isNull && matchesText pattern (Path.plainText v)
  | .yamlPathExists target path =>
    ((textOf t root target).bind Yaml.parse?).any fun v =>
      (Path.walkEntries v path).any fun w => !w.isNull
  | .xmlPathExists target path => (textOf t root target).any (hasElement path)
  | .patternInFile target pattern => (textOf t root target).any (matchesText pattern)
  | .composite _ _ => false

/-- Whether a path settles where its target lies: not if there is nothing at it. -/
def placed (t : FileTree) (base : FilePlace) (path : String) : Option Bool :=
  match t.resolve path with
  | .ok place => some (base.isPrefixOf place)
  | .error .notFound => none
  | .error _ => some false

/-- The nearest of the target and its ancestors that exists lies below the root. -/
def inside (t : FileTree) (root target : String) : Bool :=
  match t.resolve root with
  | .ok base =>
    let path := Files.Location.join root target
    ((Files.Location.ancestors path path.length).findSome? (placed t base)).getD false
  | .error _ => false

def leafTruth (s : Check.Settings) (t : FileTree) (root target : String) (c : Condition) : Bool :=
  (!s.sandbox || (Files.Location.isContained target && inside t root target)) &&
    c.verdict t s.strategies root

theorem verdict_of_absent {t : FileTree} {root target : String} {c : Condition}
    {strategies : List Path.Strategy} (hc : c.target? = some target)
    (h : t.exists? (Files.Location.join root target) = false) :
    c.verdict t strategies root = true ↔ c = .fileNotExists target := by
  have htext : textOf t root target = none := by
    unfold FileTree.exists? at h
    rw [textOf, FileTree.readText, FileTree.readBytes]
    cases hstat : t.stat (Files.Location.join root target) with
    | error f => rfl
    | ok e => simp [hstat, Except.isOk, Except.toBool] at h
  cases c with
  | composite logic checks => cases hc
  | _ =>
    obtain rfl := Option.some_inj.1 hc
    simp [verdict, h, htext]

theorem verdict_congr {t t' : FileTree} {root target : String} {c : Condition}
    {strategies : List Path.Strategy} (hc : c.target? = some target)
    (h : t'.stat (Files.Location.join root target) = t.stat (Files.Location.join root target)) :
    c.verdict t' strategies root = c.verdict t strategies root := by
  cases c with
  | composite logic checks => cases hc
  | _ =>
    obtain rfl := Option.some_inj.1 hc
    simp only [verdict, textOf, FileTree.exists?, FileTree.readText, FileTree.readBytes, h]

mutual
/-- The truth of a condition in a project. -/
def truth (s : Check.Settings) (t : FileTree) (root : String) : Condition → Bool
  | .composite logic checks => logic.combine (truths s t root checks)
  | .fileExists f => leafTruth s t root f (.fileExists f)
  | .fileNotExists f => leafTruth s t root f (.fileNotExists f)
  | .jsonPathExists f p => leafTruth s t root f (.jsonPathExists f p)
  | .jsonPathEquals f p v => leafTruth s t root f (.jsonPathEquals f p v)
  | .jsonPathMatches f p r => leafTruth s t root f (.jsonPathMatches f p r)
  | .yamlPathExists f p => leafTruth s t root f (.yamlPathExists f p)
  | .xmlPathExists f p => leafTruth s t root f (.xmlPathExists f p)
  | .patternInFile f r => leafTruth s t root f (.patternInFile f r)

def truths (s : Check.Settings) (t : FileTree) (root : String) : List Condition → List Bool
  | [] => []
  | c :: rest => truth s t root c :: truths s t root rest
end

theorem truths_eq_map (s : Check.Settings) (t : FileTree) (root : String) (cs : List Condition) :
    truths s t root cs = cs.map (truth s t root) := by
  induction cs with
  | nil => rfl
  | cons c rest ih => rw [truths, List.map_cons, ih]

end Condition

namespace Logic

theorem settle_contains (l : Logic) (bs : List Bool) :
    l.settle (bs.contains l.decisive) = l.combine bs := by
  have hall : ∀ bs : List Bool, (!bs.contains false) = bs.all id := by
    intro bs
    induction bs with
    | nil => rfl
    | cons b bs ih =>
      cases b with
      | false => rfl
      | true => exact ih
  have hany : ∀ bs : List Bool, bs.contains true = bs.any id := by
    intro bs
    induction bs with
    | nil => rfl
    | cons b bs ih =>
      cases b with
      | false => exact ih
      | true => rfl
  cases l with
  | allOf => exact hall bs
  | anyOf => exact hany bs
  | noneOf => exact congrArg Bool.not (hany bs)

end Logic

namespace Check

open Condition

variable {s : Settings} {t : FileTree} {root target : String}

theorem nearestInside_value (base : FilePlace) (paths : List String) :
    (nearestInside t base paths).value = (paths.findSome? (placed t base)).getD false := by
  induction paths with
  | nil => rfl
  | cons path rest ih =>
    rw [List.findSome?_cons, nearestInside, placed]
    cases hpath : t.resolve path with
    | ok place => rfl
    | error f =>
      cases f with
      | notFound => exact ih
      | _ => rfl

theorem resolvesInside_value : (resolvesInside t root target).value = inside t root target := by
  rw [resolvesInside, inside]
  cases hroot : t.resolve root with
  | ok base => exact nearestInside_value base _
  | error f => rfl

theorem readTarget_value : (readTarget t root target).value = textOf t root target := by
  rw [readTarget, textOf]
  cases hread : t.readText (Files.Location.join root target) <;> simp [Except.toOption]

theorem compilePattern_eq_ok_iff {pattern : String} {p : Pattern} :
    compilePattern pattern = .ok p ↔ Pattern.compile pattern = .ok p := by
  unfold compilePattern
  cases Pattern.compile pattern with
  | error f => constructor <;> intro h <;> cases h
  | ok q => constructor <;> intro h <;> cases h <;> rfl

theorem matchesText_of_compile {pattern : String} {p : Pattern}
    (h : compilePattern pattern = .ok p) (text : String) :
    matchesText pattern text = p.isMatch text := by
  simp [matchesText, compilePattern_eq_ok_iff.1 h]

theorem run_json_value (path : String) (strategies : List Path.Strategy) (test : JsonTest) :
    ((Probe.json path strategies test).run t root target).value =
      ((textOf t root target).bind Json.parse?).any (test.holds path strategies) := by
  rw [Probe.run, Traced.value_bind, readTarget_value]
  cases textOf t root target with
  | none => rfl
  | some text =>
    cases hparse : Json.parse? text with
    | none => simp [hparse, malformed]
    | some j => simp [hparse]

theorem run_yaml_value (path : String) :
    ((Probe.yaml path).run t root target).value =
      ((textOf t root target).bind Yaml.parse?).any fun v =>
        (Path.walkEntries v path).any fun w => !w.isNull := by
  rw [Probe.run, Traced.value_bind, readTarget_value]
  cases textOf t root target with
  | none => rfl
  | some text =>
    cases hparse : Yaml.parse? text with
    | none => simp [hparse, malformed]
    | some v => cases hwalk : Path.walkEntries v path <;> simp [hparse, hwalk]

theorem run_xml_value {path : String} {e : Xml.ElementPath} (h : Xml.ElementPath.compile path = .ok e) :
    ((Probe.xml e).run t root target).value = (textOf t root target).any (hasElement path) := by
  rw [Probe.run, Traced.value_bind, readTarget_value]
  cases textOf t root target with
  | none => rfl
  | some text =>
    cases hparse : Xml.Document.ofString text with
    | error cause => simp [hasElement, h, hparse, malformed]
    | ok d => simp [hasElement, h, hparse]

theorem run_text_value {pattern : String} {r : Pattern} (h : compilePattern pattern = .ok r) :
    ((Probe.text r).run t root target).value =
      (textOf t root target).any (matchesText pattern) := by
  rw [Probe.run, Traced.value_bind, readTarget_value]
  cases textOf t root target with
  | none => rfl
  | some text => simp [matchesText_of_compile h]

theorem run_probe_value {c : Condition} {p : Probe} (hc : c.target? = some target)
    (h : probe? s c = .ok (some p)) :
    (p.run t root target).value = c.verdict t s.strategies root := by
  cases c with
  | composite logic checks => cases hc
  | fileExists f =>
    obtain rfl := Option.some_inj.1 hc
    obtain rfl : Probe.presence true = p := by simpa [probe?] using h
    simp [Probe.run, verdict]
  | fileNotExists f =>
    obtain rfl := Option.some_inj.1 hc
    obtain rfl : Probe.presence false = p := by simpa [probe?] using h
    simp [Probe.run, verdict]
  | jsonPathExists f path =>
    obtain rfl := Option.some_inj.1 hc
    obtain rfl : Probe.json path s.strategies .exists = p := by simpa [probe?] using h
    rw [run_json_value]
    rfl
  | jsonPathEquals f path value =>
    obtain rfl := Option.some_inj.1 hc
    obtain rfl : Probe.json path s.strategies (.equals value) = p := by simpa [probe?] using h
    rw [run_json_value, verdict]
    congr 1
    funext j
    cases hfirst : Path.first s.strategies j path <;> simp [JsonTest.holds, hfirst]
  | jsonPathMatches f path pattern =>
    obtain rfl := Option.some_inj.1 hc
    cases hpattern : compilePattern pattern with
    | error cause => simp [probe?, hpattern, Except.map] at h
    | ok r =>
      obtain rfl : Probe.json path s.strategies (.matches r) = p := by
        simpa [probe?, hpattern, Except.map] using h
      rw [run_json_value, verdict]
      congr 1
      funext j
      cases hfirst : Path.first s.strategies j path <;>
        simp [JsonTest.holds, hfirst, matchesText_of_compile hpattern]
  | yamlPathExists f path =>
    obtain rfl := Option.some_inj.1 hc
    obtain rfl : Probe.yaml path = p := by simpa [probe?] using h
    rw [run_yaml_value, verdict]
  | xmlPathExists f path =>
    obtain rfl := Option.some_inj.1 hc
    cases hpath : Xml.ElementPath.compile path with
    | error cause => simp [probe?, hpath] at h
    | ok e =>
      obtain rfl : Probe.xml e = p := by simpa [probe?, hpath] using h
      rw [run_xml_value hpath, verdict]
  | patternInFile f pattern =>
    obtain rfl := Option.some_inj.1 hc
    cases hpattern : compilePattern pattern with
    | error cause => simp [probe?, hpattern, Except.map] at h
    | ok r =>
      obtain rfl : Probe.text r = p := by simpa [probe?, hpattern, Except.map] using h
      rw [run_text_value hpattern, verdict]

theorem probe?_ne_none {c : Condition} (hc : c.target? = some target) :
    probe? s c ≠ .ok none := by
  intro h
  cases c with
  | composite logic checks => cases hc
  | jsonPathMatches f path pattern =>
    cases hpattern : compilePattern pattern <;> simp [probe?, hpattern, Except.map] at h
  | xmlPathExists f path =>
    cases hpath : Xml.ElementPath.compile path <;> simp [probe?, hpath] at h
  | patternInFile f pattern =>
    cases hpattern : compilePattern pattern <;> simp [probe?, hpattern, Except.map] at h
  | _ => simp [probe?] at h

theorem run_buildLeaf {c : Condition} (hc : c.target? = some target) {k : Check}
    (h : (buildLeaf s c target).value = .ok k) :
    (k.run t root).value = leafTruth s t root target c := by
  unfold buildLeaf at h
  rw [leafTruth]
  cases hescapes : s.sandbox && !Files.Location.isContained target with
  | true =>
    obtain ⟨hsandbox, hcontained⟩ := Bool.and_eq_true_iff.1 hescapes
    rw [if_pos hescapes] at h
    obtain rfl : Check.escaped = k := by simpa using h
    have hcontained : Files.Location.isContained target = false := by simpa using hcontained
    simp [hsandbox, hcontained, run]
  | false =>
    rw [if_neg (by simp [hescapes])] at h
    cases hprobe : probe? s c with
    | error f => simp [hprobe] at h
    | ok o =>
      cases o with
      | none => exact absurd hprobe (probe?_ne_none hc)
      | some p =>
        have hrun : (p.run t root target).value = c.verdict t s.strategies root :=
          run_probe_value hc hprobe
        rw [hprobe] at h
        cases hsandbox : s.sandbox with
        | false =>
          obtain rfl : Check.probe target p = k := by simpa [hsandbox] using h
          simpa [run] using hrun
        | true =>
          obtain rfl : Check.guarded target p = k := by simpa [hsandbox] using h
          have hcontained : Files.Location.isContained target = true := by
            simpa [hsandbox] using hescapes
          rw [run, Traced.value_bind, resolvesInside_value]
          cases inside t root target with
          | true => simpa [hcontained] using hrun
          | false => simp

theorem runUntil_value (wanted : Bool) (ks : List Check) :
    (runUntil t root wanted ks).value =
      (ks.map fun k => (k.run t root).value).contains wanted := by
  induction ks with
  | nil => simp [runUntil]
  | cons k rest ih =>
    rw [runUntil, Traced.value_bind, List.map_cons, List.contains_cons, BEq.comm, ← ih]
    cases wanted == (k.run t root).value <;> rfl

theorem run_composite_value (logic : Logic) (ks : List Check) :
    (run t root (.composite logic ks)).value =
      logic.combine (ks.map fun k => (k.run t root).value) := by
  rw [run, Traced.value_bind, runUntil_value, ← Logic.settle_contains]
  rfl

theorem buildLeaf_of_buildAt {depth : Nat} {c : Condition} (hc : c.target? = some target)
    {k : Check} (h : (buildAt s depth c).value = .ok k) : (buildLeaf s c target).value = .ok k := by
  unfold buildAt at h
  split at h
  · cases h
  · cases c with
    | composite logic checks => cases hc
    | _ =>
      obtain rfl := Option.some_inj.1 hc
      exact h

theorem buildAt_composite_eq_ok_iff {depth : Nat} {logic : Logic} {checks : List Condition}
    {k : Check} :
    (buildAt s depth (.composite logic checks)).value = .ok k ↔ depth ≤ s.maxDepth ∧
      ∃ built, (buildAll s (depth + 1) checks).value = .ok built ∧ .composite logic built = k := by
  unfold buildAt
  split
  · next hdeep => simp [Nat.not_le.2 hdeep]
  · next hlevel =>
    cases hall : (buildAll s (depth + 1) checks).value <;> simp [hall, Nat.not_lt.1 hlevel]

theorem buildAll_cons_eq_ok_iff {depth : Nat} {c : Condition} {rest : List Condition}
    {ks : List Check} :
    (buildAll s depth (c :: rest)).value = .ok ks ↔ ∃ k built,
      (buildAt s depth c).value = .ok k ∧ (buildAll s depth rest).value = .ok built ∧
        k :: built = ks := by
  rw [buildAll, Traced.value_bind]
  cases (buildAt s depth c).value with
  | error f => simp
  | ok k => cases hrest : (buildAll s depth rest).value <;> simp [hrest]

-- by recursion on the tree: children find the truths of what they were built from
mutual
/-- A check finds the truth of the condition that it was built from. -/
theorem run_buildAt (depth : Nat) (c : Condition) {k : Check}
    (h : (buildAt s depth c).value = .ok k) : (k.run t root).value = c.truth s t root := by
  cases c with
  | composite logic checks =>
    obtain ⟨-, built, hbuilt, rfl⟩ := buildAt_composite_eq_ok_iff.1 h
    rw [run_composite_value, run_buildAll (depth + 1) checks hbuilt, truth]
  | _ => exact run_buildLeaf rfl (buildLeaf_of_buildAt rfl h)

theorem run_buildAll (depth : Nat) (cs : List Condition) {ks : List Check}
    (h : (buildAll s depth cs).value = .ok ks) :
    (ks.map fun k => (k.run t root).value) = truths s t root cs := by
  cases cs with
  | nil =>
    obtain rfl : [] = ks := by simpa [buildAll] using h
    rfl
  | cons c rest =>
    obtain ⟨k, built, hfirst, hrest, rfl⟩ := buildAll_cons_eq_ok_iff.1 h
    rw [List.map_cons, run_buildAt depth c hfirst, run_buildAll depth rest hrest, truths]
end

end Check
end StorePolicy

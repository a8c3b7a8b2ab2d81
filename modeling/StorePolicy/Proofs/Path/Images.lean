import StorePolicy.Proofs.Check.Meaning
import StorePolicy.Proofs.Files.Writing
import StorePolicy.Proofs.Path.PlainKeys

/-!
# Equal documents of two formats

A JSON value has an image among the values of documents, with its objects as mappings. Whatever a path
says, it leads to something in the image exactly if it leads to something in the value, and then to the
image of that. So a check for a dotted path finds the same in equal documents, whether they are written
as JSON or as YAML.
-/
namespace StorePolicy

namespace Path

theorem walkEntries_toValue (j : Json) (path : String) :
    walkEntries j.toValue path = (walk j path).map Json.toValue :=
  followEntries_toValue (keys path) j

theorem isNull_toValue (j : Json) : j.toValue.isNull = j.isNull := by
  cases j <;> rfl

theorem first_dottedOnly (j : Json) (path : String) :
    first Strategy.dottedOnly j path = walk j path :=
  first_eq_of_forall (List.cons_ne_nil _ _) fun s hs => by
    obtain rfl : s = .dotted := by simpa [Strategy.dottedOnly] using hs
    rfl

theorem reaches_dottedOnly (j : Json) (path : String) :
    reaches Strategy.dottedOnly j path =
      (walkEntries j.toValue path).any fun v => !v.isNull := by
  rw [reaches, first_dottedOnly, walkEntries_toValue]
  cases walk j path with
  | none => rfl
  | some v => simp [isNull_toValue]

end Path

namespace Check

open Condition StorePolicy.Path

variable {t t' : FileTree} {root root' target target' path : String} {j : Json}

def HoldsJson (t : FileTree) (root target : String) (j : Json) : Prop :=
  (textOf t root target).bind Json.parse? = some j

def HoldsYaml (t : FileTree) (root target : String) (j : Json) : Prop :=
  (textOf t root target).bind Yaml.parse? = some j.toValue

theorem verdict_images (h : HoldsJson t root target j) (h' : HoldsYaml t' root' target' j)
    (strategies : List Strategy) :
    (jsonPathExists target path).verdict t Strategy.dottedOnly root =
      (yamlPathExists target' path).verdict t' strategies root' := by
  have hjson : (textOf t root target).bind Json.parse? = some j := h
  have hyaml : (textOf t' root' target').bind Yaml.parse? = some j.toValue := h'
  simp only [verdict, hjson, hyaml, Option.any_some, reaches_dottedOnly]

/-- A path leads to the image of a value in the image of a document exactly if it leads to that value in
the document. So what asks for a dotted path in a JSON file and what asks for it in a YAML file
agree on files that hold equal documents, as do the checks that are built for one target. -/
theorem walk_images_agree (j : Json) (path : String) :
    walkEntries j.toValue path = (walk j path).map Json.toValue ∧
    (∀ t t' root root' target target',
      HoldsJson t root target j → HoldsYaml t' root' target' j →
      ((Probe.json path Strategy.dottedOnly .exists).run t root target).value =
        ((Probe.yaml path).run t' root' target').value) ∧
    ∀ (s : Settings) t root target k k', s.strategies = Strategy.dottedOnly →
      HoldsJson t root target j → HoldsYaml t root target j →
      (build s (.jsonPathExists target path)).value = .ok k →
      (build s (.yamlPathExists target path)).value = .ok k' →
      (run t root k).value = (run t root k').value := by
  refine ⟨walkEntries_toValue j path, ?_, ?_⟩
  · intro t t' root root' target target' h h'
    let s : Settings := ⟨1, false, Strategy.dottedOnly⟩
    have hjson : probe? s (.jsonPathExists target path) =
        .ok (some (.json path Strategy.dottedOnly .exists)) := rfl
    have hyaml : probe? s (.yamlPathExists target' path) = .ok (some (.yaml path)) := rfl
    rw [run_probe_value rfl hjson, run_probe_value rfl hyaml]
    exact verdict_images h h' Strategy.dottedOnly
  · intro s t root target k k' hs h h' hk hk'
    rw [run_buildAt 1 _ hk, run_buildAt 1 _ hk', truth, truth, leafTruth, leafTruth, hs,
      verdict_images h h']

section Example

def twoLevels : Json := .obj [("a", .obj [("b", .int 1)])]

def twoFormats : FileTree :=
  ⟨[(["a.json"], .file "\x7b\"a\":\x7b\"b\":1\x7d\x7d".toUTF8),
    (["a.yaml"], .file "a:\n  b: 1\n".toUTF8)], []⟩

theorem eq_int_of_same {j : Json} {i : Int} (h : j.same (.int i) = true) : j = .int i := by
  cases j with
  | int i' => simpa [Json.same] using h
  | _ => simp [Json.same] at h

theorem eq_obj_of_same {j v : Json} {k : String} (h : j.same (.obj [(k, v)]) = true)
    (hv : ∀ w, w.same v = true → w = v) : j = .obj [(k, v)] := by
  cases j with
  | obj members =>
    cases members with
    | nil => simp [Json.same, Json.sameMembers] at h
    | cons m rest =>
      obtain ⟨k', w⟩ := m
      cases rest with
      | nil =>
        obtain ⟨rfl, hw⟩ : k' = k ∧ w.same v = true := by
          simpa [Json.same, Json.sameMembers] using h
        rw [hv w hw]
      | cons next rest => simp [Json.same, Json.sameMembers] at h
  | _ => simp [Json.same] at h

theorem eq_int_of_sameValue {v : Value} {i : Int} (h : v.same (.int i) = true) : v = .int i := by
  cases v with
  | int i' => simpa [Value.same] using h
  | _ => simp [Value.same] at h

theorem eq_map_of_sameValue {v w : Value} {k : String} (h : v.same (.map [(.str k, w)]) = true)
    (hw : ∀ u, u.same w = true → u = w) : v = .map [(.str k, w)] := by
  cases v with
  | map entries =>
    cases entries with
    | nil => simp [Value.same] at h
    | cons e rest =>
      obtain ⟨key, u⟩ := e
      cases rest with
      | nil =>
        obtain ⟨hkey, hu⟩ : key.same (.str k) = true ∧ u.same w = true := by
          simpa [Value.same, Value.sameEntries] using h
        cases key with
        | str k' =>
          obtain rfl : k' = k := by simpa [Value.same] using hkey
          rw [hw u hu]
        | _ => simp [Value.same] at hkey
      | cons next rest => simp [Value.same] at h
  | _ => simp [Value.same] at h

theorem holdsJson_twoFormats : HoldsJson twoFormats "" "a.json" twoLevels := by
  have hjoin : Files.Location.join "" "a.json" = "a.json" := by decide
  have htext : twoFormats.readText "a.json" = .ok "\x7b\"a\":\x7b\"b\":1\x7d\x7d" :=
    FileTree.readText_of_isName rfl (by decide) rfl
  have hparse : (Json.parse? "\x7b\"a\":\x7b\"b\":1\x7d\x7d").any (·.same twoLevels) = true := by
    decide +kernel
  obtain ⟨j, hj, hsame⟩ := (Option.any_eq_true _ _).1 hparse
  have hequal : j = twoLevels :=
    eq_obj_of_same hsame fun _ h => eq_obj_of_same h fun _ h => eq_int_of_same h
  rw [HoldsJson, textOf, hjoin, htext, Except.toOption, Option.bind_some, hj, hequal]

theorem holdsYaml_twoFormats {target : String} (h : target = "a.json" ∨ target = "a.yaml") :
    HoldsYaml twoFormats "" target twoLevels := by
  have hjoin : Files.Location.join "" target = target := by simp [Files.Location.join]
  have hfile : ∃ text, twoFormats.readText target = .ok text ∧
      (Yaml.parse? text).any (·.same twoLevels.toValue) = true := by
    rcases h with rfl | rfl
    · exact ⟨_, FileTree.readText_of_isName rfl (by decide) rfl, by decide +kernel⟩
    · have hentry : twoFormats.entry? ["a.yaml"] = some (.file "a:\n  b: 1\n".toUTF8) := by
        simp [twoFormats, FileTree.entry?, List.lookup_cons]
      exact ⟨_, FileTree.readText_of_isName rfl (by decide) hentry, by decide +kernel⟩
  obtain ⟨text, htext, hparse⟩ := hfile
  obtain ⟨v, hv, hsame⟩ := (Option.any_eq_true _ _).1 hparse
  have hequal : v = twoLevels.toValue :=
    eq_map_of_sameValue hsame fun _ h => eq_map_of_sameValue h fun _ h => eq_int_of_sameValue h
  rw [HoldsYaml, textOf, hjoin, htext, Except.toOption, Option.bind_some, hv, hequal]

theorem walk_images_agree_of_two_formats :
    let json : Probe := .json "$.a.b" Strategy.dottedOnly .exists
    let yaml : Probe := .yaml "$.a.b"
    HoldsJson twoFormats "" "a.json" twoLevels ∧ HoldsYaml twoFormats "" "a.yaml" twoLevels ∧
      HoldsYaml twoFormats "" "a.json" twoLevels ∧
      (json.run twoFormats "" "a.json").value = (yaml.run twoFormats "" "a.yaml").value ∧
      (run twoFormats "" (.guarded "a.json" json)).value =
        (run twoFormats "" (.guarded "a.json" yaml)).value := by
  intro json yaml
  let s : Settings := ⟨1, true, Strategy.dottedOnly⟩
  have hyaml := holdsYaml_twoFormats (.inr rfl)
  have hboth := holdsYaml_twoFormats (.inl rfl)
  have hcontained : Files.Location.isContained "a.json" = true := by decide
  have hk : (build s (.jsonPathExists "a.json" "$.a.b")).value = .ok (.guarded "a.json" json) := by
    simp [build, buildAt, buildLeaf, hcontained, probe?, s, json]
  have hk' : (build s (.yamlPathExists "a.json" "$.a.b")).value = .ok (.guarded "a.json" yaml) := by
    simp [build, buildAt, buildLeaf, hcontained, probe?, s, yaml]
  obtain ⟨-, hprobes, hchecks⟩ := walk_images_agree twoLevels "$.a.b"
  exact ⟨holdsJson_twoFormats, hyaml, hboth,
    hprobes _ _ _ _ _ _ holdsJson_twoFormats hyaml,
    hchecks s twoFormats "" "a.json" _ _ rfl holdsJson_twoFormats hboth hk hk'⟩

end Example

end Check

end StorePolicy

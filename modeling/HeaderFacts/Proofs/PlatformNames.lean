import HeaderFacts.Fingerprint
import Mathlib.Data.List.TakeWhile
import Mathlib.Tactic.CasesM

/-!
# Names of platforms

What can stand in a fingerprint that is derived from a target triple. Its system is one of a few
names, none of which holds a hyphen, and its architecture is the first component of the triple or
the common name of that.

Main definitions:

* `systemNames` — the components that name a system, and the common names of those systems.
* `systemOf?` — the system that the components behind the architecture name.

Main results:

* `normalizeOs?_eq_some_iff` — a component names a system by its part before the version.
* `hyphen_not_mem_of_normalizeOs?` — such a component is one component.
* `Fingerprint.ofTriple_of_split`, `Fingerprint.split_of_ofTriple` — the fingerprint of the
  components of a triple.
-/

namespace HeaderFacts

/-! ## Systems -/

/-- The components that name a system, without their versions, and the common names of the
systems. -/
def systemNames : List (String × String) :=
  [("linux", "linux"), ("darwin", "macos"), ("macos", "macos"), ("macosx", "macos"), ("ios", "ios"),
    ("windows", "windows"), ("win32", "windows"), ("mingw", "windows"), ("android", "android"),
    ("freebsd", "freebsd"), ("netbsd", "netbsd"), ("openbsd", "openbsd"),
    ("dragonfly", "dragonfly"), ("solaris", "solaris"), ("illumos", "illumos")]

/-- A component is its name followed by a version of digits and dots. -/
theorem exists_version (component : List Char) :
    ∃ version, component = dropVersion component ++ version ∧
      ∀ c ∈ version, (c.isDigit || c == '.') = true := by
  refine ⟨(component.reverse.takeWhile fun c => c.isDigit || c == '.').reverse, ?_, ?_⟩
  · rw [dropVersion, ← List.reverse_append, List.takeWhile_append_dropWhile, List.reverse_reverse]
  · intro c hc
    rw [List.mem_reverse] at hc
    exact List.mem_takeWhile_imp (p := fun c => c.isDigit || c == '.') hc

/-- A component names a system by its part before the version. -/
theorem normalizeOs?_eq_some_iff {component : List Char} {system : String} :
    normalizeOs? component = some system ↔
      ∃ base, (base, system) ∈ systemNames ∧ dropVersion component = base.toList := by
  constructor
  · intro h
    refine ⟨String.ofList (dropVersion component), ?_, String.toList_ofList.symm⟩
    unfold normalizeOs? at h
    -- one case for each listed name, and the last one for all other components
    split at h
    case h_16 => cases h
    all_goals
      next hBase =>
      cases h
      rw [hBase]
      decide
  · rintro ⟨base, hMem, hBase⟩
    unfold normalizeOs?
    rw [hBase, String.ofList_toList]
    simp only [systemNames, List.mem_cons, Prod.mk.injEq, List.not_mem_nil, or_false] at hMem
    casesm* _ ∨ _
    all_goals
      obtain ⟨rfl, rfl⟩ := hMem
      rfl

/-- A component that names a system holds no hyphen. -/
theorem hyphen_not_mem_of_normalizeOs? {component : List Char} {system : String}
    (h : normalizeOs? component = some system) : '-' ∉ component := by
  obtain ⟨base, hMem, hBase⟩ := normalizeOs?_eq_some_iff.1 h
  obtain ⟨version, hComponent, hVersion⟩ := exists_version component
  have hNames : ∀ entry ∈ systemNames, '-' ∉ entry.1.toList := by decide
  -- it stands neither in the name nor in the version
  rw [hComponent, List.mem_append, not_or]
  constructor
  · rw [hBase]
    exact hNames _ hMem
  · intro hHyphen
    exact absurd (hVersion '-' hHyphen) (by decide)

/-- Only Android is named by a component that begins with its name. -/
theorem eq_android_of_normalizeOs? {component : List Char} {system : String}
    (h : normalizeOs? component = some system)
    (hAndroid : Text.startsWith ['a', 'n', 'd', 'r', 'o', 'i', 'd'] component = true) :
    system = "android" := by
  obtain ⟨base, hMem, hBase⟩ := normalizeOs?_eq_some_iff.1 h
  obtain ⟨version, hComponent, -⟩ := exists_version component
  -- the first letter tells Android from all other systems
  have hFirst : ∀ entry ∈ systemNames, entry.1.toList.head? = some 'a' → entry.2 = "android" := by
    decide
  have hNonempty : ∀ entry ∈ systemNames, entry.1.toList ≠ [] := by decide
  refine hFirst _ hMem ?_
  obtain ⟨rest, hRest⟩ := Text.startsWith_iff.1 hAndroid
  rw [hComponent, hBase] at hRest
  cases hList : base.toList with
  | nil => exact absurd hList (hNonempty _ hMem)
  | cons c name =>
    rw [hList] at hRest
    obtain ⟨rfl, -⟩ := List.cons.inj hRest
    rfl

/-- Every system that a component names has a common name without hyphens, which names it too. -/
theorem system_of_normalizeOs? {component : List Char} {system : String}
    (h : normalizeOs? component = some system) :
    system ≠ "" ∧ '-' ∉ system.toList ∧ normalizeOs? system.toList = some system := by
  obtain ⟨base, hMem, -⟩ := normalizeOs?_eq_some_iff.1 h
  have hNames : ∀ entry ∈ systemNames, entry.2 ≠ "" ∧ '-' ∉ entry.2.toList ∧
      normalizeOs? entry.2.toList = some entry.2 := by decide
  exact hNames _ hMem

/-! ## Architectures -/

theorem normalizeArch_ne_empty {arch : String} (h : arch ≠ "") : normalizeArch arch ≠ "" := by
  unfold normalizeArch
  split
  case h_16 =>
    split
    · decide
    · exact h
  all_goals decide

/-! ## Triples -/

/-- The system that the components behind the architecture name. -/
def systemOf? (components : List (List Char)) : Option String :=
  if components.any (Text.startsWith ['a', 'n', 'd', 'r', 'o', 'i', 'd']) then some "android"
  else components.findSome? normalizeOs?

theorem systemOf?_spec {components : List (List Char)} {system : String}
    (h : systemOf? components = some system) : system ≠ "" ∧ '-' ∉ system.toList := by
  unfold systemOf? at h
  split at h
  · cases h
    decide
  · obtain ⟨component, -, hSystem⟩ := List.exists_of_findSome?_eq_some h
    obtain ⟨hName, hHyphen, -⟩ := system_of_normalizeOs? hSystem
    exact ⟨hName, hHyphen⟩

namespace Fingerprint

/-- The fingerprint of the components of a triple. -/
theorem ofTriple_of_split {triple system : String} {arch : List Char} {components : List (List Char)}
    (hSplit : Text.splitAt '-' triple.toList = arch :: components) (hArch : arch ≠ [])
    (hSystem : systemOf? components = some system) :
    ofTriple triple = .ok ⟨system, normalizeArch (String.ofList arch)⟩ := by
  have hNonempty : arch.isEmpty = false := List.isEmpty_eq_false_iff.2 hArch
  rw [systemOf?] at hSystem
  simp only [ofTriple, hSplit, hNonempty, hSystem]
  rfl

/-- What has been found in a triple that has a fingerprint. -/
theorem split_of_ofTriple {triple : String} {f : Fingerprint} (h : ofTriple triple = .ok f) :
    ∃ arch components, Text.splitAt '-' triple.toList = arch :: components ∧ arch ≠ [] ∧
      systemOf? components = some f.os ∧ f.arch = normalizeArch (String.ofList arch) := by
  unfold ofTriple at h
  cases hSplit : Text.splitAt '-' triple.toList with
  | nil =>
    rw [hSplit] at h
    cases h
  | cons arch components =>
    refine ⟨arch, components, rfl, ?_⟩
    simp only [hSplit] at h
    -- a triple without an architecture has no fingerprint
    split at h
    · cases h
    · next hArch =>
      have hNonempty : arch ≠ [] := fun hNil => hArch (List.isEmpty_iff.2 hNil)
      refine ⟨hNonempty, ?_⟩
      rw [← systemOf?] at h
      cases hSystem : systemOf? components with
      | none =>
        rw [hSystem] at h
        cases h
      | some system =>
        rw [hSystem] at h
        cases h
        exact ⟨rfl, rfl⟩

end Fingerprint

end HeaderFacts

import HeaderFacts.Proofs.PlatformNames

/-!
# Systems of target triples

A component of a triple names a system if it is a listed name of one, with or without a version of
digits and dots behind it. All of its digits at the end count as version, so a listed name that ends
in digits itself, `win32`, is cut to a name that is not listed. The system of a triple is Android if
any component begins with that name. Otherwise it is that of the first component by which a system
is known, however many components there are and whatever the others say.

Main definitions:

* `IsVersion`, `HasName` — a version, and a name with a version behind it.
* `NamesSystem` — a listed name of a system with a version behind it.
* `KnownAs` — the components by which a system is known: all of these but `win32`.

Main results:

* `normalizeOs?_eq_some_iff_knownAs` — the system by which a component is known.
* `systemOf?_eq_some_iff` — without Android, the first known component decides.
* `Fingerprint.ofTriple_of_components` — the fingerprint of a triple, by its components.
-/

namespace HeaderFacts

/-! ## Names with versions -/

/-- A version: digits and dots, possibly none of them. -/
def IsVersion (version : List Char) : Prop :=
  ∀ c ∈ version, c.isDigit = true ∨ c = '.'

/-- A name with a version behind it. -/
def HasName (name : String) (component : List Char) : Prop :=
  ∃ version, IsVersion version ∧ component = name.toList ++ version

/-- A listed name of a system with a version behind it. -/
def NamesSystem (component : List Char) (system : String) : Prop :=
  ∃ name, (name, system) ∈ systemNames ∧ HasName name component

/-- The components by which a system is known. The name `win32` is listed and never found. -/
def KnownAs (component : List Char) (system : String) : Prop :=
  NamesSystem component system ∧ ¬ HasName "win32" component

theorem isVersion_iff {version : List Char} :
    IsVersion version ↔ ∀ c ∈ version, (c.isDigit || c == '.') = true := by
  simp [IsVersion]

/-- A version is dropped up to the last character that belongs to the name for certain. -/
theorem dropVersion_append {name version : List Char} (hVersion : IsVersion version)
    (hName : name.getLast?.any (fun c => c.isDigit || c == '.') = false) :
    dropVersion (name ++ version) = name := by
  have hBehind : ∀ c ∈ version.reverse, (c.isDigit || c == '.') = true := by
    intro c hc
    exact isVersion_iff.1 hVersion c (List.mem_reverse.1 hc)
  have hKept : (name.reverse.dropWhile fun c => c.isDigit || c == '.') = name.reverse := by
    cases hReverse : name.reverse with
    | nil => rfl
    | cons c before =>
      -- the first character from behind is the last one of the name
      have hLast : name.getLast? = some c := by
        rw [← List.head?_reverse, hReverse]
        rfl
      rw [hLast, Option.any_some] at hName
      exact List.dropWhile_cons_of_neg (by simp [hName])
  rw [dropVersion, List.reverse_append, List.dropWhile_append_of_pos hBehind, hKept,
    List.reverse_reverse]

/-- What is left of a component that has a name, where the name ends in no version. -/
theorem dropVersion_of_hasName {name : String} {component : List Char} (h : HasName name component)
    (hName : name.toList.getLast?.any (fun c => c.isDigit || c == '.') = false) :
    dropVersion component = name.toList := by
  obtain ⟨version, hVersion, rfl⟩ := h
  exact dropVersion_append hVersion hName

/-- The digits of `win32` are dropped with the version behind them. -/
theorem dropVersion_win32 {component : List Char} (h : HasName "win32" component) :
    dropVersion component = "win".toList := by
  obtain ⟨version, hVersion, rfl⟩ := h
  have hDigits : HasName "win" ("win32".toList ++ version) := by
    refine ⟨['3', '2'] ++ version, ?_, rfl⟩
    intro c hc
    rcases List.mem_append.1 hc with hc | hc
    · have hOwn : ['3', '2'].all Char.isDigit = true := rfl
      exact Or.inl (List.all_eq_true.1 hOwn c hc)
    · exact hVersion c hc
  exact dropVersion_of_hasName hDigits rfl

/-! ## Known components -/

/-- A component names a system exactly if the system is known by it. -/
theorem normalizeOs?_eq_some_iff_knownAs {component : List Char} {system : String} :
    normalizeOs? component = some system ↔ KnownAs component system := by
  rw [normalizeOs?_eq_some_iff]
  constructor
  · rintro ⟨name, hListed, hName⟩
    obtain ⟨version, hComponent, hVersion⟩ := exists_version component
    rw [hName] at hComponent
    refine ⟨⟨name, hListed, version, isVersion_iff.2 hVersion, hComponent⟩, ?_⟩
    intro hDigits
    -- what is left of it would be listed
    rw [dropVersion_win32 hDigits] at hName
    have hUnlisted : ∀ entry ∈ systemNames, "win".toList ≠ entry.1.toList := by decide
    exact hUnlisted _ hListed hName
  · rintro ⟨⟨name, hListed, hComponent⟩, hDigits⟩
    refine ⟨name, hListed, dropVersion_of_hasName hComponent ?_⟩
    have hOther : name ≠ "win32" := by
      rintro rfl
      exact hDigits hComponent
    -- every other listed name ends in a letter
    have hLetters : ∀ entry ∈ systemNames, entry.1 ≠ "win32" →
        entry.1.toList.getLast?.any (fun c => c.isDigit || c == '.') = false := by decide
    exact hLetters _ hListed hOther

theorem normalizeOs?_eq_none_iff {component : List Char} :
    normalizeOs? component = none ↔ ∀ system, ¬ KnownAs component system := by
  rw [Option.eq_none_iff_forall_ne_some]
  exact forall_congr' fun system => not_congr normalizeOs?_eq_some_iff_knownAs

theorem any_android_iff {components : List (List Char)} :
    components.any (Text.startsWith ['a', 'n', 'd', 'r', 'o', 'i', 'd']) = true ↔
      ∃ c ∈ components, "android".toList <+: c := by
  rw [List.any_eq_true]
  exact exists_congr fun c => and_congr_right fun _ => Text.startsWith_iff

theorem systemOf?_of_android {components : List (List Char)}
    (h : ∃ c ∈ components, "android".toList <+: c) : systemOf? components = some "android" := by
  rw [systemOf?, if_pos (any_android_iff.2 h)]

section WithoutAndroid

variable {components : List (List Char)}

theorem systemOf?_eq_findSome? (h : ∀ c ∈ components, ¬ "android".toList <+: c) :
    systemOf? components = components.findSome? normalizeOs? := by
  have hNone : ¬ ∃ c ∈ components, "android".toList <+: c := by
    rintro ⟨c, hc, hAndroid⟩
    exact h c hc hAndroid
  rw [systemOf?, if_neg (mt any_android_iff.1 hNone)]

/-- The first component by which a system is known decides. -/
theorem systemOf?_eq_some_iff (h : ∀ c ∈ components, ¬ "android".toList <+: c) {system : String} :
    systemOf? components = some system ↔
      ∃ before c after, components = before ++ c :: after ∧ KnownAs c system ∧
        ∀ b ∈ before, ∀ other, ¬ KnownAs b other := by
  simp only [systemOf?_eq_findSome? h, List.findSome?_eq_some_iff, normalizeOs?_eq_some_iff_knownAs,
    normalizeOs?_eq_none_iff]

theorem systemOf?_eq_none_iff (h : ∀ c ∈ components, ¬ "android".toList <+: c) :
    systemOf? components = none ↔ ∀ c ∈ components, ∀ system, ¬ KnownAs c system := by
  simp only [systemOf?_eq_findSome? h, List.findSome?_eq_none_iff, normalizeOs?_eq_none_iff]

end WithoutAndroid

/-! ## Triples -/

namespace Fingerprint

variable {triple : String} {arch : List Char} {components : List (List Char)}

theorem ofTriple_of_no_arch (hSplit : Text.splitAt '-' triple.toList = [] :: components) :
    ofTriple triple = .error (.property "platform fingerprint" triple) := by
  unfold ofTriple
  rw [hSplit]
  rfl

theorem ofTriple_of_no_system (hSplit : Text.splitAt '-' triple.toList = arch :: components)
    (hSystem : systemOf? components = none) :
    ofTriple triple = .error (.property "platform fingerprint" triple) := by
  rw [systemOf?] at hSystem
  simp only [ofTriple, hSplit, hSystem]
  exact ite_self _

/-- **The fingerprint of a triple.** Without an architecture in front there is none. Android is the
system if any component behind it begins with that name; otherwise it is that of the first component
by which a system is known, and there is no fingerprint without one. The architecture comes from the
first component alone. -/
theorem ofTriple_of_components (hSplit : triple.toList.splitOn '-' = arch :: components) :
    (arch = [] → ofTriple triple = .error (.property "platform fingerprint" triple)) ∧
    (arch ≠ [] → (∃ c ∈ components, "android".toList <+: c) →
      ofTriple triple = .ok ⟨"android", normalizeArch (String.ofList arch)⟩) ∧
    (arch ≠ [] → (∀ c ∈ components, ¬ "android".toList <+: c) →
      ((∃ f, ofTriple triple = .ok f) ↔ ∃ c ∈ components, ∃ system, KnownAs c system) ∧
      (∀ before c after system, components = before ++ c :: after →
        (∀ b ∈ before, ∀ other, ¬ KnownAs b other) → KnownAs c system →
        ofTriple triple = .ok ⟨system, normalizeArch (String.ofList arch)⟩) ∧
      ((∀ c ∈ components, ∀ system, ¬ KnownAs c system) →
        ofTriple triple = .error (.property "platform fingerprint" triple))) := by
  rw [← Text.splitAt_eq_splitOn] at hSplit
  refine ⟨?_, ?_, ?_⟩
  · rintro rfl
    exact ofTriple_of_no_arch hSplit
  · intro hArch hAndroid
    exact ofTriple_of_split hSplit hArch (systemOf?_of_android hAndroid)
  · intro hArch hOther
    have hFirst : ∀ before c after system, components = before ++ c :: after →
        (∀ b ∈ before, ∀ other, ¬ KnownAs b other) → KnownAs c system →
        ofTriple triple = .ok ⟨system, normalizeArch (String.ofList arch)⟩ := by
      intro before c after system hComponents hBefore hKnown
      have hSystem : systemOf? components = some system :=
        (systemOf?_eq_some_iff hOther).2 ⟨before, c, after, hComponents, hKnown, hBefore⟩
      exact ofTriple_of_split hSplit hArch hSystem
    have hNone : (∀ c ∈ components, ∀ system, ¬ KnownAs c system) →
        ofTriple triple = .error (.property "platform fingerprint" triple) := by
      intro hUnknown
      exact ofTriple_of_no_system hSplit ((systemOf?_eq_none_iff hOther).2 hUnknown)
    refine ⟨?_, hFirst, hNone⟩
    -- either no component is known or there is a first known one
    cases hSystem : systemOf? components with
    | none =>
      have hUnknown := (systemOf?_eq_none_iff hOther).1 hSystem
      refine iff_of_false ?_ ?_
      · rintro ⟨f, hf⟩
        rw [hNone hUnknown] at hf
        cases hf
      · rintro ⟨c, hc, system, hKnown⟩
        exact hUnknown c hc system hKnown
    | some system =>
      obtain ⟨before, c, after, hComponents, hKnown, hBefore⟩ :=
        (systemOf?_eq_some_iff hOther).1 hSystem
      have hMem : c ∈ components := by simp [hComponents]
      exact iff_of_true ⟨_, hFirst before c after system hComponents hBefore hKnown⟩
        ⟨c, hMem, system, hKnown⟩

/-- A version behind a name, after a component of digits alone and one that is overlooked. -/
theorem ofTriple_of_components_mingw :
    "x86_64-64-win32-mingw32-linux".toList.splitOn '-' =
        ["x86_64", "64", "win32", "mingw32", "linux"].map String.toList ∧
      "x86_64".toList ≠ [] ∧
      (∀ c ∈ ["64", "win32", "mingw32", "linux"].map String.toList, ¬ "android".toList <+: c) ∧
      KnownAs "mingw32".toList "windows" ∧
      ofTriple "x86_64-64-win32-mingw32-linux" = .ok ⟨"windows", "x64"⟩ := by
  have hSplit : "x86_64-64-win32-mingw32-linux".toList.splitOn '-' =
      "x86_64".toList :: ["64", "win32", "mingw32", "linux"].map String.toList := by decide
  have hOther : ∀ c ∈ ["64", "win32", "mingw32", "linux"].map String.toList,
      ¬ "android".toList <+: c := by decide
  have hKnown : KnownAs "mingw32".toList "windows" :=
    normalizeOs?_eq_some_iff_knownAs.1 (by decide)
  have hBefore : ∀ b ∈ ["64", "win32"].map String.toList, ∀ other, ¬ KnownAs b other := by
    intro b hb
    apply normalizeOs?_eq_none_iff.1
    exact (by decide : ∀ b ∈ ["64", "win32"].map String.toList, normalizeOs? b = none) b hb
  obtain ⟨-, -, hFirst⟩ := ofTriple_of_components hSplit
  obtain ⟨-, hDecides, -⟩ := hFirst (by decide) hOther
  exact ⟨hSplit, by decide, hOther, hKnown,
    hDecides _ _ ["linux".toList] _ rfl hBefore hKnown⟩

/-- A triple with a listed name that is never found: alone it leaves the triple without a
fingerprint, and before another name it does not decide. -/
theorem ofTriple_overlooks_win32 :
    (("win32", "windows") ∈ systemNames ∧ NamesSystem "win32".toList "windows") ∧
    ("i686-pc-win32".toList.splitOn '-' = ["i686", "pc", "win32"].map String.toList ∧
      (∀ c ∈ ["pc", "win32"].map String.toList, ¬ "android".toList <+: c) ∧
      ofTriple "i686-pc-win32" = .error (.property "platform fingerprint" "i686-pc-win32")) ∧
    ("i686-win32-linux".toList.splitOn '-' = ["i686", "win32", "linux"].map String.toList ∧
      (∀ c ∈ ["win32", "linux"].map String.toList, ¬ "android".toList <+: c) ∧
      ofTriple "i686-win32-linux" = .ok ⟨"linux", "x86"⟩) := by
  have hListed : ("win32", "windows") ∈ systemNames := by decide
  have hNames : NamesSystem "win32".toList "windows" :=
    ⟨"win32", hListed, [], by simp [IsVersion], rfl⟩
  exact ⟨⟨hListed, hNames⟩, ⟨by decide, by decide, by decide⟩, ⟨by decide, by decide, by decide⟩⟩

end Fingerprint

end HeaderFacts

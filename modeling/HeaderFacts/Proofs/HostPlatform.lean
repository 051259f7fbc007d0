import HeaderFacts.Proofs.PlatformNames

/-!
# The platform of a running program

A program learns the platform it runs on from two names, of the system and of the architecture. The
name of the system says as much as a target triple does. The name of the architecture says less: it
does not tell the byte order of a 64-bit PowerPC, and it is the same for all variants of a 64-bit
Arm, of which the triple's name is read as that of a 64-bit Arm only if it is `arm64` itself. On all
other platforms the fingerprint of the triple is the one that the program finds where it runs.

Main definitions:

* `reportedArch?` — the name that a program reports for the architecture of a triple.
* `tripleText` — the triple of some components.
* `Silent` — a component that names no system.
* `Blurred` — an architecture that its reported name does not tell.

Main results:

* `normalizeArch_reported_iff` — which architectures have one common name from both sources.
* `systemOf?_of_silent` — the system of a triple, whatever vendor and environment it names.
* `Fingerprint.ofTriple_eq_ofHost_iff` — which platforms have one fingerprint from both sources.
-/

namespace HeaderFacts

/-! ## Architectures -/

/-- The name that a program reports for the architecture of a triple, for the architectures that
have a common name. -/
def reportedArch? (arch : String) : Option String :=
  match arch with
  | "x86_64" => some "x86_64"
  | "amd64" => some "x86_64"
  | "i386" => some "x86"
  | "i486" => some "x86"
  | "i586" => some "x86"
  | "i686" => some "x86"
  | "x86" => some "x86"
  | "aarch64" => some "aarch64"
  | "powerpc64le" => some "powerpc64"
  | "ppc64le" => some "powerpc64"
  | "powerpc64" => some "powerpc64"
  | "ppc64" => some "powerpc64"
  | "powerpc" => some "powerpc"
  | "ppc" => some "powerpc"
  | _ =>
    if Text.startsWith ['a', 'r', 'm', '6', '4'] arch.toList then some "aarch64"
    else if Text.startsWith ['a', 'r', 'm'] arch.toList ||
        Text.startsWith ['t', 'h', 'u', 'm', 'b'] arch.toList then some "arm"
    else none

/-- An architecture that its reported name does not tell: a 64-bit PowerPC in little-endian order,
or a variant of a 64-bit Arm. -/
def Blurred (arch : String) : Prop :=
  arch = "powerpc64le" ∨ arch = "ppc64le" ∨
    Text.startsWith ['a', 'r', 'm', '6', '4'] arch.toList = true ∧ arch ≠ "arm64"

instance (arch : String) : Decidable (Blurred arch) :=
  inferInstanceAs (Decidable (_ ∨ _ ∨ _))

/-- Every name that begins like one of an Arm, other than `arm64`, is that of a 32-bit one. -/
theorem normalizeArch_of_arm {arch : String}
    (h : (Text.startsWith ['a', 'r', 'm'] arch.toList ||
      Text.startsWith ['t', 'h', 'u', 'm', 'b'] arch.toList) = true) (hArch : arch ≠ "arm64") :
    normalizeArch arch = "arm" := by
  unfold normalizeArch
  split
  case h_9 => exact absurd rfl hArch
  case h_16 => exact if_pos h
  all_goals exact absurd h (by decide)

/-- An architecture has one common name from both sources unless it is blurred. -/
theorem normalizeArch_reported_iff {arch reported : String} (h : reportedArch? arch = some reported) :
    normalizeArch arch = normalizeArch reported ↔ ¬ Blurred arch := by
  unfold reportedArch? at h
  split at h
  case h_15 =>
    -- only the names that begin like one of an Arm are left
    split at h
    · next hWide =>
      cases h
      -- `arm64` itself is known, and all that goes on behind it is taken for a narrow one
      by_cases hArch : arch = "arm64"
      · rw [hArch]
        decide
      · have hArm : Text.startsWith ['a', 'r', 'm'] arch.toList = true :=
          Text.startsWith_iff.2 (List.IsPrefix.trans ⟨['6', '4'], rfl⟩ (Text.startsWith_iff.1 hWide))
        have hBlurred : Blurred arch := Or.inr (Or.inr ⟨hWide, hArch⟩)
        rw [normalizeArch_of_arm (by rw [hArm]; rfl) hArch]
        exact iff_of_false (by decide) (not_not_intro hBlurred)
    · next hNarrow =>
      split at h
      · next hArm =>
        cases h
        have hArch : arch ≠ "arm64" := by
          rintro rfl
          exact hNarrow (by decide)
        have hClear : ¬ Blurred arch := by
          rintro (rfl | rfl | ⟨hWide, -⟩)
          · exact absurd hArm (by decide)
          · exact absurd hArm (by decide)
          · exact hNarrow hWide
        rw [normalizeArch_of_arm hArm hArch]
        exact iff_of_true (by decide) hClear
      · cases h
  -- every listed name is compared with its reported one
  all_goals
    cases h
    decide

/-! ## Triples -/

/-- The triple of some components; the environment may be missing. -/
def tripleText (arch vendor os : String) (env : Option String) : String :=
  arch ++ "-" ++ vendor ++ "-" ++ os ++ (env.map ("-" ++ ·)).getD ""

/-- A component that names no system. -/
structure Silent (component : String) : Prop where
  hyphen_not_mem : '-' ∉ component.toList
  no_system : normalizeOs? component.toList = none
  no_android : Text.startsWith ['a', 'n', 'd', 'r', 'o', 'i', 'd'] component.toList = false

theorem splitAt_tripleText {arch vendor os : String} {env : Option String}
    (hArch : '-' ∉ arch.toList) (hVendor : '-' ∉ vendor.toList) (hOs : '-' ∉ os.toList)
    (hEnv : ∀ e ∈ env, '-' ∉ e.toList) :
    Text.splitAt '-' (tripleText arch vendor os env).toList =
      arch.toList :: vendor.toList :: os.toList :: (env.map String.toList).toList := by
  cases env with
  | none =>
    have hText : (tripleText arch vendor os none).toList =
        arch.toList ++ '-' :: (vendor.toList ++ '-' :: os.toList) := by
      simp [tripleText]
    rw [hText, Text.splitAt_append _ hArch, Text.splitAt_append _ hVendor,
      Text.splitAt_of_not_mem hOs]
    rfl
  | some env =>
    have hText : (tripleText arch vendor os (some env)).toList =
        arch.toList ++ '-' :: (vendor.toList ++ '-' :: (os.toList ++ '-' :: env.toList)) := by
      simp [tripleText]
    rw [hText, Text.splitAt_append _ hArch, Text.splitAt_append _ hVendor,
      Text.splitAt_append _ hOs, Text.splitAt_of_not_mem (hEnv env rfl)]
    rfl

/-- The system of a triple, whatever vendor and environment it names. -/
theorem systemOf?_of_silent {vendor os system : String} {env : Option String}
    (hVendor : Silent vendor) (hEnv : ∀ e ∈ env, Silent e)
    (hOs : normalizeOs? os.toList = some system) :
    systemOf? (vendor.toList :: os.toList :: (env.map String.toList).toList) = some system := by
  have hEnvAndroid : ((env.map String.toList).toList.any
      (Text.startsWith ['a', 'n', 'd', 'r', 'o', 'i', 'd'])) = false := by
    cases env with
    | none => rfl
    | some env => simp [(hEnv env rfl).no_android]
  rw [systemOf?, List.any_cons, List.any_cons, hVendor.no_android, hEnvAndroid, Bool.false_or,
    Bool.or_false]
  split
  · next hAndroid => rw [eq_android_of_normalizeOs? hOs hAndroid]
  · rw [List.findSome?_cons, hVendor.no_system, List.findSome?_cons, hOs]

namespace Fingerprint

/-- **One platform, two sources.** The triple of an architecture that has a common name and of a
known system, with any vendor and environment, has a fingerprint of that system. It is the one that
a program finds on that platform unless the architecture is blurred. -/
theorem ofTriple_eq_ofHost_iff {arch vendor os system reported : String} {env : Option String}
    (hReported : reportedArch? arch = some reported) (hArch : '-' ∉ arch.toList)
    (hVendor : Silent vendor) (hEnv : ∀ e ∈ env, Silent e)
    (hOs : normalizeOs? os.toList = some system) :
    ∃ f, ofTriple (tripleText arch vendor os env) = .ok f ∧ f.os = (ofHost system reported).os ∧
      (f = ofHost system reported ↔ ¬ Blurred arch) := by
  obtain ⟨-, -, hSystem⟩ := system_of_normalizeOs? hOs
  have hHost : ofHost system reported = ⟨system, normalizeArch reported⟩ := by
    rw [ofHost, hSystem, Option.getD_some]
  have hNonempty : arch.toList ≠ [] := by
    intro hNil
    rw [String.toList_eq_nil_iff.1 hNil] at hReported
    cases hReported
  have hTriple : ofTriple (tripleText arch vendor os env) = .ok ⟨system, normalizeArch arch⟩ := by
    have hSplit := splitAt_tripleText hArch hVendor.hyphen_not_mem
      (hyphen_not_mem_of_normalizeOs? hOs) fun e he => (hEnv e he).hyphen_not_mem
    rw [ofTriple_of_split hSplit hNonempty (systemOf?_of_silent hVendor hEnv hOs),
      String.ofList_toList]
  refine ⟨_, hTriple, by rw [hHost], ?_⟩
  rw [hHost, mk.injEq, ← normalizeArch_reported_iff hReported]
  exact and_iff_right rfl

/-- A system with a version and an environment, on an architecture that nothing blurs. -/
theorem ofTriple_eq_ofHost_iff_simulator :
    reportedArch? "arm64" = some "aarch64" ∧ '-' ∉ "arm64".toList ∧ Silent "apple" ∧
      Silent "simulator" ∧ normalizeOs? "ios17.4".toList = some "ios" ∧
      tripleText "arm64" "apple" "ios17.4" (some "simulator") = "arm64-apple-ios17.4-simulator" ∧
      ofTriple "arm64-apple-ios17.4-simulator" = .ok (ofHost "ios" "aarch64") := by
  have hReported : reportedArch? "arm64" = some "aarch64" := by decide
  have hVendor : Silent "apple" := ⟨by decide, by decide, by decide⟩
  have hEnv : Silent "simulator" := ⟨by decide, by decide, by decide⟩
  have hEnvs : ∀ e ∈ some "simulator", Silent e := by
    rintro e ⟨⟩
    exact hEnv
  have hOs : normalizeOs? "ios17.4".toList = some "ios" := by decide
  have hClear : ¬ Blurred "arm64" := by decide
  obtain ⟨f, hTriple, -, hHost⟩ :=
    ofTriple_eq_ofHost_iff hReported (by decide) hVendor hEnvs hOs
  obtain rfl : f = ofHost "ios" "aarch64" := hHost.2 hClear
  exact ⟨hReported, by decide, hVendor, hEnv, hOs, by decide, hTriple⟩

/-- Two platforms whose fingerprints from the two sources differ: a variant of a 64-bit Arm, which
is taken for a 32-bit one, and a 64-bit PowerPC whose byte order is not reported. -/
theorem ofTriple_ne_ofHost_of_blurred :
    (reportedArch? "arm64e" = some "aarch64" ∧ Silent "apple" ∧
      normalizeOs? "darwin".toList = some "macos" ∧
      tripleText "arm64e" "apple" "darwin" none = "arm64e-apple-darwin" ∧
      ofTriple "arm64e-apple-darwin" = .ok ⟨"macos", "arm"⟩ ∧
      ofHost "macos" "aarch64" = ⟨"macos", "arm64"⟩) ∧
    (reportedArch? "powerpc64le" = some "powerpc64" ∧ Silent "unknown" ∧ Silent "gnu" ∧
      normalizeOs? "linux".toList = some "linux" ∧
      tripleText "powerpc64le" "unknown" "linux" (some "gnu") = "powerpc64le-unknown-linux-gnu" ∧
      ofTriple "powerpc64le-unknown-linux-gnu" = .ok ⟨"linux", "ppc64le"⟩ ∧
      ofHost "linux" "powerpc64" = ⟨"linux", "ppc64"⟩) := by
  have hApple : Silent "apple" := ⟨by decide, by decide, by decide⟩
  have hUnknown : Silent "unknown" := ⟨by decide, by decide, by decide⟩
  have hGnu : Silent "gnu" := ⟨by decide, by decide, by decide⟩
  exact ⟨⟨by decide, hApple, by decide, by decide, by decide, by decide⟩,
    ⟨by decide, hUnknown, hGnu, by decide, by decide, by decide, by decide⟩⟩

end Fingerprint

end HeaderFacts

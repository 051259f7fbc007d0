import HeaderFacts.Proofs.Evaluation
import HeaderFacts.Proofs.Literals
import HeaderFacts.Proofs.PlatformNames

/-!
# Baked platforms

A generated artifact holds the fingerprint of the platform it was made for, as a text, and loads
only where the text is that of the running platform. Writing joins system and architecture with a
hyphen and reading cuts at the first one, so the text tells the platform as long as the system holds
no hyphen and neither of the two is empty. Every fingerprint of a triple is of that kind.

Main definitions:

* `Fingerprint.Writable` — a fingerprint that its text determines.
* `Baked` — the fingerprint text that a row puts into the artifact.

Main results:

* `Fingerprint.ofText?_eq_some_iff` — the fingerprint that a text is read as.
* `Fingerprint.check_eq_ok_iff` — what loads where.
* `Fingerprint.writable_of_ofTriple` — the fingerprint of a triple is determined by its text.
* `Fingerprint.check_baked_iff` — a baked fingerprint loads on its own platform and on no other.
-/

namespace HeaderFacts

open ExtractionModule (fingerprint)

namespace Fingerprint

/-! ## Written fingerprints -/

/-- A fingerprint that its text determines. -/
structure Writable (f : Fingerprint) : Prop where
  os_ne : f.os ≠ ""
  hyphen_not_mem : '-' ∉ f.os.toList
  arch_ne : f.arch ≠ ""

theorem toList_text (f : Fingerprint) : f.text.toList = f.os.toList ++ '-' :: f.arch.toList := by
  simp [text]

/-- A text is read as a fingerprint that it determines and is the text of. -/
theorem ofText?_eq_some_iff {written : String} {f : Fingerprint} :
    ofText? written = some f ↔ written = f.text ∧ f.Writable := by
  constructor
  · intro h
    unfold ofText? at h
    cases hCut : Text.cut? '-' written.toList with
    | none =>
      rw [hCut] at h
      cases h
    | some sides =>
      obtain ⟨os, arch⟩ := sides
      -- the system stands before the first hyphen
      obtain ⟨hWritten, hHyphen⟩ := Text.cut?_eq_some_iff.1 hCut
      simp only [hCut] at h
      split at h
      · cases h
      · next hNonempty =>
        cases h
        simp only [Bool.or_eq_true, List.isEmpty_iff, not_or] at hNonempty
        refine ⟨String.toList_injective ?_, ?_, ?_, ?_⟩
        · simp [toList_text, hWritten]
        · simpa [← String.toList_eq_nil_iff] using hNonempty.1
        · simpa using hHyphen
        · simpa [← String.toList_eq_nil_iff] using hNonempty.2
  · rintro ⟨rfl, hOs, hHyphen, hArch⟩
    have hCut : Text.cut? '-' f.text.toList = some (f.os.toList, f.arch.toList) := by
      rw [toList_text]
      exact Text.cut?_append hHyphen
    simp [ofText?, hCut, hOs, hArch]

/-- A text loads on the platform that it determines and is the text of. -/
theorem check_eq_ok_iff {written : String} {running : Fingerprint} :
    check written running = .ok () ↔ written = running.text ∧ running.Writable := by
  rw [check, ← ofText?_eq_some_iff]
  split <;> simp [*]

theorem of_check_eq_error {written : String} {running : Fingerprint} {m : PlatformMismatch}
    (h : check written running = .error m) : m = ⟨written, running.text⟩ := by
  unfold check at h
  split at h
  · cases h
  · cases h
    rfl

/-- A text that determines a fingerprint loads on that platform alone. -/
theorem check_text_iff {f running : Fingerprint} (h : f.Writable) :
    check f.text running = .ok () ↔ running = f := by
  have hRead : ofText? f.text = some f := ofText?_eq_some_iff.2 ⟨rfl, h⟩
  rw [check_eq_ok_iff, ← ofText?_eq_some_iff, hRead, Option.some.injEq, eq_comm]

/-- The fingerprint of a triple is determined by its text. -/
theorem writable_of_ofTriple {triple : String} {f : Fingerprint} (h : ofTriple triple = .ok f) :
    f.Writable := by
  obtain ⟨arch, components, -, hArch, hSystem, hName⟩ := split_of_ofTriple h
  obtain ⟨hOs, hHyphen⟩ := systemOf?_spec hSystem
  refine ⟨hOs, hHyphen, ?_⟩
  rw [hName]
  exact normalizeArch_ne_empty (by simpa using hArch)

end Fingerprint

/-! ## Baked fingerprints -/

/-- The fingerprint text that a row puts into the artifact: the text that the row denotes as a
literal where literals are asked for, and otherwise the row itself. -/
def Baked (o : Options) (row written : String) : Prop :=
  if o.quote then Text.denoted? row.toList = some written.toList else row = written

/-- What a row for a fingerprint puts into the artifact. -/
theorem baked_row (o : Options) (written : String) :
    Baked o (if o.quote then quoted written else written) written := by
  unfold Baked
  split
  · rw [quoted, String.toList_ofList, Text.denoted?_literal]
  · rfl

/-- The row of a directive for the platform. -/
theorem row_of_evaluate_fingerprint {c : Catalog} {largeFile : List Define} {d : Directive}
    {emission : Emission} (hName : d.moduleName = "fingerprint")
    (hOk : Registry.standard.evaluate c.openSession largeFile d = .ok emission) :
    ∃ f, Fingerprint.ofTriple c.dump.target = .ok f ∧
      emission = Emission.ofRows d.options [if d.options.quote then quoted f.text else f.text] := by
  have hBuiltin : fingerprint ∈ ExtractionModule.builtins := by simp [ExtractionModule.builtins]
  obtain ⟨-, -, hEvaluate⟩ := Registry.of_evaluate_builtin hBuiltin hName hOk
  simp only [fingerprint, Catalog.session] at hEvaluate
  cases hTriple : Fingerprint.ofTriple c.dump.target with
  | error err =>
    rw [hTriple] at hEvaluate
    cases hEvaluate
  | ok f =>
    rw [hTriple] at hEvaluate
    cases hEvaluate
    exact ⟨f, rfl, rfl⟩

namespace Fingerprint

/-- **Baked fingerprints.** What the row of a fingerprint directive puts into the artifact loads on
the platform of the target triple and on no other. In general, a text loads only on a platform that
it is the text of, and there it does if the system holds no hyphen and neither name is empty; a
refusal names the text and the platform. -/
theorem check_baked_iff :
    (∀ (c : Catalog) (largeFile : List Define) (d : Directive) (emission : Emission),
      d.moduleName = "fingerprint" →
      Registry.standard.evaluate c.openSession largeFile d = .ok emission →
      ∃ f row written, ofTriple c.dump.target = .ok f ∧ emission.rows = [row] ∧
        Baked d.options row written ∧ ∀ running, check written running = .ok () ↔ running = f) ∧
    ∀ (written : String) (running : Fingerprint),
      (check written running = .ok () → written = running.text) ∧
      (written = running.text → running.os ≠ "" → '-' ∉ running.os.toList → running.arch ≠ "" →
        check written running = .ok ()) ∧
      ∀ m, check written running = .error m → m = ⟨written, running.text⟩ := by
  constructor
  · intro c largeFile d emission hName hOk
    obtain ⟨f, hTriple, rfl⟩ := row_of_evaluate_fingerprint hName hOk
    exact ⟨f, _, f.text, hTriple, rfl, baked_row d.options f.text,
      fun running => check_text_iff (writable_of_ofTriple hTriple)⟩
  · intro written running
    refine ⟨?_, ?_, fun m => of_check_eq_error⟩
    · intro h
      exact (check_eq_ok_iff.1 h).1
    · intro hWritten hOs hHyphen hArch
      exact check_eq_ok_iff.2 ⟨hWritten, hOs, hHyphen, hArch⟩

/-- An unknown architecture whose name has to be escaped, with Android named behind another system,
and an architecture with a hyphen. -/
theorem check_baked_iff_escaped :
    let c : Catalog :=
      { dump := ({ target := "rv\"64é-unknown-linux-android21" } : Dump).addHeader "stddef.h" [] }
    let d : Directive :=
      { moduleName := "fingerprint", headers := ["stddef.h"], options := { quote := true } }
    let row := "\"android-rv\\\"64\\u\x7be9\x7d\""
    Registry.standard.evaluate c.openSession [] d = .ok { rows := [row], composite := false } ∧
      (∃ written, Baked d.options row written ∧
        ∀ running, check written running = .ok () ↔ running = ⟨"android", "rv\"64é"⟩) ∧
      check "linux-arm-64" ⟨"linux", "arm-64"⟩ = .ok () := by
  intro c d row
  have hOk : Registry.standard.evaluate c.openSession [] d =
      .ok { rows := [row], composite := false } := by decide +kernel
  obtain ⟨hBaked, hCheck⟩ := check_baked_iff
  obtain ⟨f, other, written, hTriple, hRows, hWritten, hLoads⟩ := hBaked c [] d _ rfl hOk
  have hPlatform : ofTriple c.dump.target = .ok ⟨"android", "rv\"64é"⟩ := by decide +kernel
  obtain rfl : f = ⟨"android", "rv\"64é"⟩ := Except.ok.inj (hTriple.symm.trans hPlatform)
  obtain rfl : row = other := (List.cons.inj hRows).1
  obtain ⟨-, hLoad, -⟩ := hCheck "linux-arm-64" ⟨"linux", "arm-64"⟩
  exact ⟨hOk, ⟨written, hWritten, hLoads⟩,
    hLoad (by decide) (by decide) (by decide) (by decide)⟩

end Fingerprint

end HeaderFacts

import HeaderFacts.Proofs.RecordedFacts

/-!
# Opaque types have the layout that they stand for

An opaque type is an array of unsigned numbers that are as wide as the alignment, and as many of
them as make up the size. There is one for every size that an alignment of 1, 2, 4 or 8 divides. For
any other layout there is none, and of several reasons the first counts: a size that the dump does
not hold, an alignment that it does not hold, an alignment that is no width of a number, and a size
that the alignment does not divide.

Sizes and alignments are 64-bit words. The arithmetic on them is safe because of the order in which
it is done: the width is looked up before anything is divided, and zero is no width.

Main definitions:

* `opaqueText` — an array of some numbers, as it is written.
* `Decl.OpaqueRefusal` — why there is no opaque type of the layout of a declaration.
* `opaqueOnWords` — the arithmetic on words, which breaks off where it would divide by zero.

Main results:

* `Decl.records_or_unrecorded` — the dump holds a number for a property, or there is a reason why
  there is none.
* `opaqueOnWords_eq` — the arithmetic on words never breaks off.
* `LayoutModule.evaluate_opaque_iff` — which declarations have an opaque type, and which one.
-/

namespace HeaderFacts

/-! ## Recorded numbers -/

/-- A number that the dump holds is at most the largest signed word. -/
theorem Decl.Records.le_maxValue {d : Decl} {p : Property} {n : Nat} (h : d.Records p n) :
    (n : Int) ≤ Int64.maxValue.toInt := by
  obtain ⟨word, -, hValue⟩ := h
  exact hValue ▸ word.toInt_le

/-- The dump holds a number for a property, or there is a reason why there is none. -/
theorem Decl.records_or_unrecorded (d : Decl) (p : Property) :
    (∃ n, d.Records p n) ∨ d.Unrecorded p := by
  cases hNumber : d.recorded? p with
  | some word =>
    by_cases hNegative : word.toInt < 0
    · exact Or.inr (.negative hNumber hNegative)
    · have hValue := (Int.toNat_of_nonneg (Int.not_lt.1 hNegative)).symm
      exact Or.inl ⟨word.toInt.toNat, word, hNumber, hValue⟩
  | none =>
    right
    cases hLayout : d.layout with
    | none => exact .noLayout hLayout
    | some l =>
      -- only a member can be missing from a layout
      rw [recorded?, hLayout, Option.bind_some] at hNumber
      cases p with
      | size | alignment => cases hNumber
      | offset member =>
        refine .noMember hLayout ?_
        rw [Layout.recorded?, Option.map_eq_none_iff, List.find?_eq_none] at hNumber
        simpa using hNumber

/-! ## Widths and counts -/

/-- The widths of unsigned numbers, in bytes. -/
def numberWidths : List Nat := [1, 2, 4, 8]

/-- An array of some numbers, as it is written. -/
def opaqueText (name element : String) (count : Nat) : String :=
  "#[repr(C)]\npub struct " ++ name ++ " \x7b\n    _opaque: [" ++ element ++ "; " ++
    toString count ++ "],\n\x7d"

theorem elementType_of_mem {alignment : Nat} (h : alignment ∈ numberWidths) :
    elementType alignment = .ok (unsignedType alignment) := by
  simp only [numberWidths, List.mem_cons, List.not_mem_nil, or_false] at h
  rcases h with rfl | rfl | rfl | rfl <;> rfl

theorem elementType_of_not_mem {alignment : Nat} (h : alignment ∉ numberWidths) :
    elementType alignment = .error (.unsupportedAlignment alignment) := by
  unfold elementType
  split
  case h_5 => rfl
  all_goals exact absurd (by decide) h

/-- An alignment that is no width is refused before anything is divided. -/
theorem opaqueSurrogate_of_not_mem {alignment : Nat} (h : alignment ∉ numberWidths) (name : String)
    (size : Nat) :
    opaqueSurrogate name size alignment = .error (.unsupportedAlignment alignment) := by
  rw [opaqueSurrogate, elementType_of_not_mem h]
  rfl

theorem opaqueSurrogate_of_not_dvd {size alignment : Nat} (hWidth : alignment ∈ numberWidths)
    (h : ¬ alignment ∣ size) (name : String) :
    opaqueSurrogate name size alignment = .error (.unsupportedSize size alignment) := by
  have hRest : size % alignment ≠ 0 := fun hZero => h (Nat.dvd_of_mod_eq_zero hZero)
  rw [opaqueSurrogate, elementType_of_mem hWidth]
  simp only [hRest, ne_eq, not_false_eq_true, if_true]
  rfl

/-- A size that the alignment divides is made up of numbers as wide as the alignment. -/
theorem opaqueSurrogate_of_dvd {size alignment : Nat} (hWidth : alignment ∈ numberWidths)
    (h : alignment ∣ size) (name : String) :
    opaqueSurrogate name size alignment =
      .ok (opaqueText name (unsignedType alignment) (size / alignment)) := by
  have hRest : size % alignment = 0 := Nat.mod_eq_zero_of_dvd h
  rw [opaqueSurrogate, elementType_of_mem hWidth]
  simp only [hRest, ne_eq, not_true, if_false]
  rfl

/-! ## Arithmetic on words -/

/-- The quotient of two words, unless the divisor is zero. -/
def quotient? (n divisor : UInt64) : Option UInt64 :=
  if divisor = 0 then none else some (n / divisor)

/-- The remainder of two words, unless the divisor is zero. -/
def remainder? (n divisor : UInt64) : Option UInt64 :=
  if divisor = 0 then none else some (n % divisor)

/-- An opaque type as it is computed on words. Nothing comes of it where a division by zero would
break it off. -/
def opaqueOnWords (name : String) (size alignment : UInt64) :
    Option (Except ExtractionError String) :=
  match elementType alignment.toNat with
  | .error err => some (.error err)
  | .ok element => do
    let rest ← remainder? size alignment
    if rest ≠ 0 then
      return .error (.unsupportedSize size.toNat alignment.toNat)
    else
      return .ok (opaqueText name element (← quotient? size alignment).toNat)

/-- The arithmetic on words never breaks off, and it is that on numbers. -/
theorem opaqueOnWords_eq (name : String) (size alignment : UInt64) :
    opaqueOnWords name size alignment =
      some (opaqueSurrogate name size.toNat alignment.toNat) := by
  by_cases hWidth : alignment.toNat ∈ numberWidths
  · -- zero is no width, so both divisions are done
    have hNonzero : alignment ≠ 0 := by
      rintro rfl
      exact absurd hWidth (by decide)
    have hRest : size % alignment = 0 ↔ alignment.toNat ∣ size.toNat := by
      rw [← UInt64.toNat_inj, UInt64.toNat_mod, Nat.dvd_iff_mod_eq_zero]
      rfl
    rw [opaqueOnWords, elementType_of_mem hWidth]
    simp only [remainder?, quotient?, hNonzero, if_false]
    by_cases hDivides : alignment.toNat ∣ size.toNat
    · rw [opaqueSurrogate_of_dvd hWidth hDivides]
      simp [hRest.2 hDivides]
    · rw [opaqueSurrogate_of_not_dvd hWidth hDivides]
      simp [mt hRest.1 hDivides]
  · rw [opaqueOnWords, elementType_of_not_mem hWidth, opaqueSurrogate_of_not_mem hWidth]

/-! ## The opaque type of a declaration -/

/-- Why there is no opaque type of the layout of a declaration; the first reason counts. -/
inductive Decl.OpaqueRefusal (x : Decl) : ExtractionError → Prop
  | noSize (h : x.Unrecorded .size) : OpaqueRefusal x (.query (.property "size" x.name))
  | noAlignment {size : Nat} (hSize : x.Records .size size) (h : x.Unrecorded .alignment) :
    OpaqueRefusal x (.query (.property "alignment" x.name))
  | noWidth {size alignment : Nat} (hSize : x.Records .size size)
      (hAlignment : x.Records .alignment alignment) (h : alignment ∉ numberWidths) :
    OpaqueRefusal x (.unsupportedAlignment alignment)
  | indivisible {size alignment : Nat} (hSize : x.Records .size size)
      (hAlignment : x.Records .alignment alignment) (hWidth : alignment ∈ numberWidths)
      (h : ¬ alignment ∣ size) :
    OpaqueRefusal x (.unsupportedSize size alignment)

/-- The layout of a declaration that has an opaque type. -/
structure Decl.HasOpaque (x : Decl) (size alignment : Nat) : Prop where
  recordsSize : x.Records .size size
  recordsAlignment : x.Records .alignment alignment
  width : alignment ∈ numberWidths
  divides : alignment ∣ size

open ExtractionModule (renderOpaque)

variable {x : Decl} {o : Options}

/-- There is an opaque type of the layout of a declaration, or a first reason why there is none. -/
theorem Decl.hasOpaque_or_refusal (x : Decl) :
    (∃ size alignment, x.HasOpaque size alignment) ∨ ∃ err, x.OpaqueRefusal err := by
  rcases x.records_or_unrecorded .size with ⟨size, hSize⟩ | hNone
  · rcases x.records_or_unrecorded .alignment with ⟨alignment, hAlignment⟩ | hNone
    · by_cases hWidth : alignment ∈ numberWidths
      · by_cases hDivides : alignment ∣ size
        · exact Or.inl ⟨size, alignment, hSize, hAlignment, hWidth, hDivides⟩
        · exact Or.inr ⟨_, .indivisible hSize hAlignment hWidth hDivides⟩
      · exact Or.inr ⟨_, .noWidth hSize hAlignment hWidth⟩
    · exact Or.inr ⟨_, .noAlignment hSize hNone⟩
  · exact Or.inr ⟨_, .noSize hNone⟩

theorem renderOpaque_of_records {size alignment : Nat} (hSize : x.Records .size size)
    (hAlignment : x.Records .alignment alignment) :
    renderOpaque o x = opaqueSurrogate (o.formatName x.name) size alignment := by
  rw [renderOpaque, Decl.extract_of_records hSize, Decl.extract_of_records hAlignment]
  rfl

theorem renderOpaque_of_hasOpaque {size alignment : Nat} (h : x.HasOpaque size alignment) :
    renderOpaque o x =
      .ok (opaqueText (o.formatName x.name) (unsignedType alignment) (size / alignment)) := by
  rw [renderOpaque_of_records h.recordsSize h.recordsAlignment,
    opaqueSurrogate_of_dvd h.width h.divides]

theorem renderOpaque_of_refusal {err : ExtractionError} (h : x.OpaqueRefusal err) :
    renderOpaque o x = .error err := by
  cases h with
  | noSize hNone =>
    rw [renderOpaque, Decl.extract_of_unrecorded hNone]
    rfl
  | noAlignment hSize hNone =>
    rw [renderOpaque, Decl.extract_of_records hSize, Decl.extract_of_unrecorded hNone]
    rfl
  | noWidth hSize hAlignment hWidth =>
    rw [renderOpaque_of_records hSize hAlignment, opaqueSurrogate_of_not_mem hWidth]
  | indivisible hSize hAlignment hWidth hDivides =>
    rw [renderOpaque_of_records hSize hAlignment, opaqueSurrogate_of_not_dvd hWidth hDivides]

namespace LayoutModule

variable {c : Catalog} {largeFile : List Define} {d : Directive}

/-- The emission of a directive for opaque types that selects a single definition. -/
theorem evaluate_opaque_eq (hName : d.moduleName = opaqueType.toModule.name)
    (hValid : opaqueType.toModule.validate d = .ok ())
    (hResolved : ∀ header ∈ d.headers, (c.resolve? header).isSome)
    (hSelected : c.selected largeFile NodeKind.layoutKinds d = [x]) :
    Registry.standard.evaluate c.openSession largeFile d =
      (renderOpaque d.options x).map fun text => { rows := [text], composite := false } := by
  have hPlain : d.options.composite = false := composite_of_validate_opaqueType hValid
  have hSole := @SoleModule.evaluate_eq_soleMatch .opaqueType c largeFile d hName hValid hResolved
  have hOne : c.selected largeFile SoleModule.opaqueType.toModule.defaultKinds d = [x] := hSelected
  have hFact : SoleModule.opaqueType.fact d x = renderOpaque d.options x := rfl
  rw [hSole, hOne]
  simp only [soleMatch, hFact]
  cases renderOpaque d.options x with
  | error err => rfl
  | ok text =>
    show Except.ok (Emission.ofMatch d.options (some ⟨x.name, text⟩)) = _
    simp [Emission.ofMatch, Emission.ofRows, hPlain, Except.map]

/-- **Opaque types.** Of a valid directive that selects a single definition, there is an opaque type
if and only if the dump holds a size and an alignment, the alignment is 1, 2, 4 or 8, and it divides
the size. The type is then an array of unsigned numbers as wide as the alignment that make up the
size. Otherwise the first reason why there is none is the error. Sizes and alignments are words, and
the arithmetic on words breaks off for none of them. -/
theorem evaluate_opaque_iff (hName : d.moduleName = opaqueType.toModule.name)
    (hValid : opaqueType.toModule.validate d = .ok ())
    (hResolved : ∀ header ∈ d.headers, (c.resolve? header).isSome)
    (hSelected : c.selected largeFile NodeKind.layoutKinds d = [x]) :
    let result := Registry.standard.evaluate c.openSession largeFile d
    ((∃ emission, result = .ok emission) ↔ ∃ size alignment, x.HasOpaque size alignment) ∧
    (∀ size alignment, x.HasOpaque size alignment → ∃ count, count * alignment = size ∧
      result = .ok
        { rows := [opaqueText (d.options.formatName x.name) (unsignedType alignment) count]
          composite := false }) ∧
    (∀ err, result = .error err ↔ x.OpaqueRefusal err) ∧
    (∀ p n, x.Records p n → (n : Int) ≤ Int64.maxValue.toInt) ∧
    ∀ name size alignment, opaqueOnWords name size alignment =
      some (opaqueSurrogate name size.toNat alignment.toNat) := by
  intro result
  have hResult : result =
      (renderOpaque d.options x).map fun text => { rows := [text], composite := false } :=
    evaluate_opaque_eq hName hValid hResolved hSelected
  have hMade (size alignment) (h : x.HasOpaque size alignment) :
      result = .ok
        { rows := [opaqueText (d.options.formatName x.name) (unsignedType alignment)
            (size / alignment)]
          composite := false } := by
    rw [hResult, renderOpaque_of_hasOpaque h]
    rfl
  have hRefused (err) (h : x.OpaqueRefusal err) : result = .error err := by
    rw [hResult, renderOpaque_of_refusal h]
    rfl
  refine ⟨⟨?_, ?_⟩, ?_, fun err => ⟨?_, hRefused err⟩, fun p n h => h.le_maxValue,
    opaqueOnWords_eq⟩
  -- a definition has an opaque type or is refused one, so each outcome excludes the other
  · rintro ⟨emission, hOk⟩
    rcases x.hasOpaque_or_refusal with hOpaque | ⟨err, hRefusal⟩
    · exact hOpaque
    · rw [hRefused err hRefusal] at hOk
      cases hOk
  · rintro ⟨size, alignment, h⟩
    exact ⟨_, hMade size alignment h⟩
  · intro size alignment h
    exact ⟨size / alignment, Nat.div_mul_cancel h.divides, hMade size alignment h⟩
  · intro hError
    rcases x.hasOpaque_or_refusal with ⟨size, alignment, h⟩ | ⟨other, hRefusal⟩
    · rw [hMade size alignment h] at hError
      cases hError
    · rw [hRefused other hRefusal] at hError
      cases hError
      exact hRefusal

/-- The largest of all sizes, which no width but 1 divides, and a size that takes up no number, whose
alignment is a width. -/
theorem evaluate_opaque_iff_limits :
    let largest : Decl := (Decl.struct "largest").withLayout Int64.maxValue 8
    let hollow : Decl := (Decl.struct "hollow").withLayout 0 4
    let c : Catalog :=
      { dump := ({ target := "x86_64-linux" } : Dump).addHeader "t.h" [largest, hollow] }
    let d (pattern : String) : Directive :=
      { moduleName := "opaque"
        headers := ["t.h"]
        options := { patterns := (NamePattern.ofSource? pattern).toList } }
    let result (pattern : String) :=
      Registry.standard.evaluate c.openSession [] (d pattern)
    (∀ header ∈ (d "largest").headers, (c.resolve? header).isSome) ∧
      opaqueType.toModule.validate (d "largest") = .ok () ∧
      c.selected [] NodeKind.layoutKinds (d "largest") = [largest] ∧
      result "largest" = .error (.unsupportedSize 9223372036854775807 8) ∧
      opaqueType.toModule.validate (d "hollow") = .ok () ∧
      c.selected [] NodeKind.layoutKinds (d "hollow") = [hollow] ∧
      result "hollow" =
        .ok { rows := ["#[repr(C)]\npub struct hollow \x7b\n    _opaque: [u32; 0],\n\x7d"] } := by
  intro largest hollow c d result
  have hResolved : ∀ header ∈ (d "largest").headers, (c.resolve? header).isSome := by
    decide +kernel
  have hValid : opaqueType.toModule.validate (d "largest") = .ok () := by decide +kernel
  have hSelected : c.selected [] NodeKind.layoutKinds (d "largest") = [largest] := by
    decide +kernel
  have hLargest : largest.OpaqueRefusal (.unsupportedSize 9223372036854775807 8) :=
    .indivisible ⟨_, rfl, by decide⟩ ⟨_, rfl, by decide⟩ (by decide) (by decide)
  have hValidHollow : opaqueType.toModule.validate (d "hollow") = .ok () := by decide +kernel
  have hSelectedHollow : c.selected [] NodeKind.layoutKinds (d "hollow") = [hollow] := by
    decide +kernel
  have hHollow : hollow.HasOpaque 0 4 := by
    refine ⟨⟨_, rfl, by decide⟩, ⟨_, rfl, by decide⟩, by decide, by decide⟩
  obtain ⟨-, -, hErrors, -⟩ := evaluate_opaque_iff rfl hValid hResolved hSelected
  obtain ⟨-, hRows, -⟩ := evaluate_opaque_iff rfl hValidHollow hResolved hSelectedHollow
  obtain ⟨count, hCount, hRow⟩ := hRows 0 4 hHollow
  obtain rfl : count = 0 := by omega
  exact ⟨hResolved, hValid, hSelected, (hErrors _).2 hLargest, hValidHollow, hSelectedHollow, hRow⟩

end LayoutModule

end HeaderFacts

import HeaderFacts.Proofs.IndependentLookups

/-!
# Layout facts are recorded facts

Four modules write sizes, alignments and offsets. Each of these numbers stands in the dump, for a
definition that the directive selects: nothing stands in for a layout or a member that is missing,
and a negative number is never made into another one. A directive that selects a single definition
without the number fails, and the error names the number and the definition.

Main definitions:

* `Decl.recorded?`, `Decl.Records` — the number that a dump holds for a property.
* `Decl.Unrecorded`, `Decl.FirstUnrecorded` — why there is no number to write, and for which of
  several properties.
* `LayoutModule` — the modules that write layout facts.
* `LayoutModule.RowOf` — the rows that are made of recorded numbers alone.

Main results:

* `Decl.extract_of_records`, `Decl.extract_of_unrecorded` — a fact is taken exactly as recorded.
* `SoleModule.fact_of_row` — where a row of a module for a single definition comes from.
* `LayoutModule.evaluate_recorded` — what the modules write, and what they refuse.
-/

namespace HeaderFacts

/-! ## What a dump holds -/

/-- The number that a layout holds for a property, if it holds one. Of several members of one name
the first counts. -/
def Layout.recorded? (l : Layout) : Property → Option Int64
  | .size => some l.size
  | .alignment => some l.align
  | .offset member => (l.fields.find? (·.name = member)).map Field.offset

/-- The number that the dump holds for a property of a declaration, if it holds one. -/
def Decl.recorded? (d : Decl) (p : Property) : Option Int64 :=
  d.layout.bind (·.recorded? p)

/-- The dump holds a number for a property of a declaration. -/
def Decl.Records (d : Decl) (p : Property) (n : Nat) : Prop :=
  ∃ word, d.recorded? p = some word ∧ word.toInt = n

/-- Why there is no number to write for a property of a declaration. -/
inductive Decl.Unrecorded (d : Decl) : Property → Prop
  | noLayout {p : Property} (h : d.layout = none) : Unrecorded d p
  | noMember {l : Layout} {member : String} (hLayout : d.layout = some l)
      (h : ∀ field ∈ l.fields, field.name ≠ member) : Unrecorded d (.offset member)
  | negative {p : Property} {word : Int64} (h : d.recorded? p = some word)
      (hNegative : word.toInt < 0) : Unrecorded d p

/-- The first of some properties for which there is no number. -/
inductive Decl.FirstUnrecorded (d : Decl) : List Property → Property → Prop
  | here {p : Property} {rest : List Property} (h : d.Unrecorded p) :
    FirstUnrecorded d (p :: rest) p
  | later {p q : Property} {n : Nat} {rest : List Property} (h : d.Records q n)
      (hRest : FirstUnrecorded d rest p) : FirstUnrecorded d (q :: rest) p

variable {d : Decl} {p : Property}

/-- Where a layout holds no number, what it answers is negative. -/
theorem Layout.record_eq (l : Layout) (p : Property) : l.record p = (l.recorded? p).getD (-1) := by
  cases p with
  | size => rfl
  | alignment => rfl
  | offset member =>
    rw [Layout.record, Layout.offsetOf, Layout.recorded?]
    cases l.fields.find? (·.name = member) <;> rfl

/-- The answers of a frontend are the numbers that its dump holds. -/
theorem Decl.answers_iff_records {n : Nat} : d.Answers p n ↔ d.Records p n := by
  unfold Decl.Answers Decl.Records Decl.recorded?
  cases hLayout : d.layout with
  | none => simp
  | some l =>
    simp only [Option.some.injEq, exists_eq_left', Option.bind_some, l.record_eq p]
    cases hNumber : l.recorded? p with
    | some word => simp
    | none =>
      -- the number that stands for a missing one is no natural number
      have hMissing : (-1 : Int64).toInt = -1 := by decide
      simp [hMissing]

theorem Decl.extract_of_records {n : Nat} (h : d.Records p n) : d.extract p = .ok n :=
  extract_eq_ok_iff.2 (answers_iff_records.2 h)

theorem Decl.records_of_extract {n : Nat} (h : d.extract p = .ok n) : d.Records p n :=
  answers_iff_records.1 (extract_eq_ok_iff.1 h)

theorem Decl.Unrecorded.not_answers (h : d.Unrecorded p) (n : Nat) : ¬ d.Answers p n := by
  rw [answers_iff_records]
  rintro ⟨word, hWord, hValue⟩
  cases h with
  | noLayout h => simp [Decl.recorded?, h] at hWord
  | @noMember l member hLayout h =>
    have hFind : l.fields.find? (·.name = member) = none := by
      rw [List.find?_eq_none]
      intro field hField
      simpa using h field hField
    simp [Decl.recorded?, Layout.recorded?, hLayout, hFind] at hWord
  | negative h hNegative =>
    obtain rfl := Option.some.inj (h.symm.trans hWord)
    omega

/-- Without a recorded number the error names the property and the declaration. -/
theorem Decl.extract_of_unrecorded (h : d.Unrecorded p) :
    d.extract p = .error (.query (.property p.label d.name)) :=
  extract_of_no_answer h.not_answers

/-! ## The modules -/

/-- A fact as the row of a single declaration: a cell in composite mode, and otherwise itself. -/
def Options.factRow (o : Options) (name fact : String) : String :=
  if o.composite then "[" ++ o.formatName name ++ "]=" ++ fact else fact

/-- The unsigned type that is as wide as some bytes. -/
def unsignedType (bytes : Nat) : String :=
  "u" ++ toString (8 * bytes)

/-- The modules that write layout facts. -/
inductive LayoutModule where
  | sizeOf
  | property
  | opaqueType
  | dialect
  deriving DecidableEq, Repr

namespace LayoutModule

/-- The module itself. -/
def toModule : LayoutModule → ExtractionModule
  | sizeOf => .sizeOf
  | property => .property
  | opaqueType => .opaqueType
  | dialect => .dialect

/-- The properties that a directive asks of a definition, in the order in which they are asked. -/
def asked (d : Directive) : LayoutModule → List Property
  | sizeOf => [.size]
  | property => d.options.property.toList
  | opaqueType => [.size, .alignment]
  | dialect => d.options.property.toList

/-- A row that is made of the numbers that the dump holds for a definition, and of no others. -/
inductive RowOf (d : Directive) (x : Decl) : LayoutModule → String → Prop
  | sizeOf {n : Nat} (h : x.Records .size n) :
      RowOf d x .sizeOf (d.options.factRow x.name (toString n))
  | property {p : Property} {n : Nat} (hAsked : d.options.property = some p) (h : x.Records p n) :
      RowOf d x .property (d.options.factRow x.name (toString n))
  /-- As many words of the recorded alignment as make up the recorded size. -/
  | opaqueType {size alignment count : Nat} (hSize : x.Records .size size)
      (hAlignment : x.Records .alignment alignment) (hCount : count * alignment = size) :
      RowOf d x .opaqueType ("#[repr(C)]\npub struct " ++ d.options.formatName x.name ++
        " \x7b\n    _opaque: [" ++ unsignedType alignment ++ "; " ++ toString count ++ "],\n\x7d")
  | dialect {p : Property} {n : Nat} (hAsked : d.options.property = some p) (h : x.Records p n) :
      RowOf d x .dialect (toString n)

end LayoutModule

/-! ## A single definition -/

open ExtractionModule (requestedProperty renderProperty renderOpaque)

variable {c : Catalog} {largeFile : List Define} {d : Directive} {x : Decl}

/-- A row of a module for a single definition is the fact of a selected one. -/
theorem SoleModule.fact_of_row (sole : SoleModule) {emission : Emission} {row : String}
    (hName : d.moduleName = sole.toModule.name)
    (hOk : Registry.standard.evaluate c.openSession largeFile d = .ok emission)
    (hRow : row ∈ emission.rows) :
    ∃ x ∈ c.selected largeFile sole.toModule.defaultKinds d, ∃ fact,
      sole.fact d x = .ok fact ∧ row = d.options.factRow x.name fact := by
  obtain ⟨hValid, hResolved, -⟩ := Registry.of_evaluate_builtin sole.mem_builtins hName hOk
  rw [evaluate_eq_soleMatch hName hValid hResolved] at hOk
  obtain ⟨found, hFound, rfl⟩ := ok_of_map hOk
  match hSelected : c.selected largeFile sole.toModule.defaultKinds d with
  | [] =>
    rw [hSelected] at hFound
    cases hFound
    cases hRow
  | [x] =>
    rw [hSelected] at hFound
    obtain ⟨fact, hFact, hSome⟩ := ok_of_bind hFound
    cases hSome
    have hFactRow : row = if d.options.composite then d.options.formatRow x.name fact else fact :=
      List.mem_singleton.1 hRow
    refine ⟨x, List.mem_singleton_self x, fact, hFact, hFactRow.trans ?_⟩
    cases hComposite : d.options.composite <;>
      simp [Options.factRow, Options.formatRow, hComposite]
  | x :: y :: rest =>
    -- a second definition leaves no emission
    rw [hSelected] at hFound
    obtain ⟨fact, -, hThrow⟩ := ok_of_bind hFound
    cases hThrow

/-- A single definition whose fact cannot be taken decides the error. -/
theorem SoleModule.evaluate_of_fact_error (sole : SoleModule) {err : ExtractionError}
    (hName : d.moduleName = sole.toModule.name) (hValid : sole.toModule.validate d = .ok ())
    (hResolved : ∀ header ∈ d.headers, (c.resolve? header).isSome)
    (hSelected : c.selected largeFile sole.toModule.defaultKinds d = [x])
    (hFact : sole.fact d x = .error err) :
    Registry.standard.evaluate c.openSession largeFile d = .error err := by
  rw [evaluate_eq_soleMatch hName hValid hResolved, hSelected]
  simp only [soleMatch, hFact]
  rfl

theorem records_of_renderProperty {fact : String} (h : renderProperty p x = .ok fact) :
    ∃ n : Nat, x.Records p n ∧ fact = toString n := by
  obtain ⟨n, hExtract, rfl⟩ := ok_of_map h
  exact ⟨n, Decl.records_of_extract hExtract, rfl⟩

theorem renderProperty_of_unrecorded (h : x.Unrecorded p) :
    renderProperty p x = .error (.query (.property p.label x.name)) := by
  rw [renderProperty, Decl.extract_of_unrecorded h]
  rfl

theorem property_of_requested {name : String} (h : requestedProperty name d = .ok p) :
    d.options.property = some p := by
  unfold requestedProperty at h
  split at h
  · next hProperty =>
    cases h
    exact hProperty
  · cases h

/-- The element of an opaque type is as wide as the alignment. -/
theorem elementType_eq {alignment : Nat} {element : String}
    (h : elementType alignment = .ok element) : element = unsignedType alignment := by
  unfold elementType at h
  split at h
  case h_5 => cases h
  all_goals
    cases h
    rfl

/-- The elements of an opaque type make up its size. -/
theorem count_of_opaqueSurrogate {name row : String} {size alignment : Nat}
    (h : opaqueSurrogate name size alignment = .ok row) :
    ∃ count, count * alignment = size ∧
      row = "#[repr(C)]\npub struct " ++ name ++ " \x7b\n    _opaque: [" ++
        unsignedType alignment ++ "; " ++ toString count ++ "],\n\x7d" := by
  obtain ⟨element, hElement, h⟩ := ok_of_bind h
  by_cases hDivides : size % alignment = 0
  · simp only [hDivides, ne_eq, not_true, if_false] at h
    cases h
    refine ⟨size / alignment, Nat.div_mul_cancel (Nat.dvd_of_mod_eq_zero hDivides), ?_⟩
    rw [elementType_eq hElement]
  · simp only [hDivides, ne_eq, not_false_eq_true, if_true] at h
    cases h

/-- The rows of opaque types are no cells. -/
theorem composite_of_validate_opaqueType (h : ExtractionModule.opaqueType.validate d = .ok ()) :
    d.options.composite = false := by
  obtain ⟨_, -, h⟩ := ok_of_bind h
  obtain ⟨_, hReject, -⟩ := ok_of_bind h
  unfold rejectFlag at hReject
  cases hComposite : d.options.composite with
  | false => rfl
  | true => simp [hComposite] at hReject

/-! ## What the modules write -/

namespace LayoutModule

/-- The value that two answers call for is the answer of a definition. -/
theorem answers_of_calls {legacy variant : NamePattern} {decls : List Decl} {m n : Option Nat}
    {value : Nat} (hLegacy : Found p (legacyOf legacy decls) m)
    (hVariant : Found p (variantsOf legacy variant decls) n)
    (hCalls : Candidates.Calls ⟨m, n⟩ value) : ∃ x ∈ decls, x.Answers p value := by
  obtain ⟨x, k, hOne, hAnswers, ⟨-, rfl⟩ | ⟨y, hTwo, hValue, -⟩⟩ :=
    chosen_iff.2 ⟨m, n, hLegacy, hVariant, hCalls⟩
  · have hMem : x ∈ legacyOf legacy decls := hOne ▸ List.mem_singleton_self x
    exact ⟨x, (List.mem_filter.1 hMem).1, hAnswers⟩
  · have hMem : y ∈ variantsOf legacy variant decls := hTwo ▸ List.mem_singleton_self y
    exact ⟨y, (List.mem_filter.1 hMem).1, hValue⟩

/-- A row of a layout module is made of numbers that the dump holds for a selected definition. -/
theorem rowOf_of_evaluate {m : LayoutModule} {emission : Emission} {row : String}
    (hName : d.moduleName = m.toModule.name)
    (hOk : Registry.standard.evaluate c.openSession largeFile d = .ok emission)
    (hRow : row ∈ emission.rows) :
    ∃ x ∈ c.selected largeFile NodeKind.layoutKinds d, m.RowOf d x row := by
  cases m with
  | sizeOf =>
    obtain ⟨x, hx, fact, hFact, rfl⟩ := SoleModule.fact_of_row .sizeOf hName hOk hRow
    obtain ⟨n, hRecords, rfl⟩ := records_of_renderProperty hFact
    exact ⟨x, hx, .sizeOf hRecords⟩
  | property =>
    obtain ⟨x, hx, fact, hFact, rfl⟩ := SoleModule.fact_of_row .property hName hOk hRow
    obtain ⟨p, hRequested, hRender⟩ := ok_of_bind hFact
    obtain ⟨n, hRecords, rfl⟩ := records_of_renderProperty hRender
    exact ⟨x, hx, .property (property_of_requested hRequested) hRecords⟩
  | opaqueType =>
    obtain ⟨x, hx, fact, hFact, rfl⟩ := SoleModule.fact_of_row .opaqueType hName hOk hRow
    obtain ⟨size, hSize, hFact⟩ := ok_of_bind hFact
    obtain ⟨alignment, hAlignment, hFact⟩ := ok_of_bind hFact
    obtain ⟨count, hCount, rfl⟩ := count_of_opaqueSurrogate hFact
    have hPlain : d.options.composite = false := by
      obtain ⟨hValid, -, -⟩ :=
        Registry.of_evaluate_builtin (SoleModule.mem_builtins .opaqueType) hName hOk
      exact composite_of_validate_opaqueType hValid
    refine ⟨x, hx, ?_⟩
    simp only [Options.factRow, hPlain]
    exact .opaqueType (Decl.records_of_extract hSize) (Decl.records_of_extract hAlignment) hCount
  | dialect =>
    obtain ⟨p, legacy, variant, -, hProperty, -, m, n, value, hLegacy, hVariant, hCalls, rfl⟩ :=
      found_of_evaluate_dialect hName hOk
    obtain rfl : row = toString value := List.mem_singleton.1 hRow
    obtain ⟨x, hx, hAnswers⟩ := answers_of_calls hLegacy hVariant hCalls
    exact ⟨x, hx, .dialect hProperty (Decl.answers_iff_records.1 hAnswers)⟩

/-- Every selected definition is matched by one of the patterns. -/
theorem match_of_mem_selected {kinds : List NodeKind} {legacy variant : NamePattern}
    (hPatterns : d.options.patterns = [legacy, variant]) (hx : x ∈ c.selected largeFile kinds d) :
    legacy.isMatch x.name = true ∨
      legacy.isMatch x.name = false ∧ variant.isMatch x.name = true := by
  have hAccepts := (List.mem_filter.1 hx).2
  simp only [Options.accepts, Options.acceptsName, hPatterns, Bool.and_eq_true] at hAccepts
  have hAny := hAccepts.2.2.1
  cases hLegacy : legacy.isMatch x.name with
  | true => exact Or.inl rfl
  | false => exact Or.inr ⟨rfl, by simpa [hLegacy] using hAny⟩

/-- A single definition without a number that is asked for is refused. -/
theorem evaluate_of_firstUnrecorded {m : LayoutModule} (hName : d.moduleName = m.toModule.name)
    (hValid : m.toModule.validate d = .ok ())
    (hResolved : ∀ header ∈ d.headers, (c.resolve? header).isSome)
    (hSelected : c.selected largeFile NodeKind.layoutKinds d = [x])
    (hMissing : x.FirstUnrecorded (m.asked d) p) :
    Registry.standard.evaluate c.openSession largeFile d =
      .error (.query (.property p.label x.name)) := by
  cases m with
  | sizeOf =>
    apply SoleModule.evaluate_of_fact_error .sizeOf hName hValid hResolved hSelected
    obtain ⟨hSize⟩ | ⟨-, ⟨⟩⟩ := hMissing
    exact renderProperty_of_unrecorded hSize
  | property =>
    apply SoleModule.evaluate_of_fact_error .property hName hValid hResolved hSelected
    cases hProperty : d.options.property with
    | none =>
      rw [asked, hProperty] at hMissing
      cases hMissing
    | some q =>
      rw [asked, hProperty] at hMissing
      obtain ⟨hQ⟩ | ⟨-, ⟨⟩⟩ := hMissing
      simp only [SoleModule.fact, requestedProperty, hProperty]
      exact renderProperty_of_unrecorded hQ
  | opaqueType =>
    apply SoleModule.evaluate_of_fact_error .opaqueType hName hValid hResolved hSelected
    simp only [SoleModule.fact, renderOpaque]
    obtain ⟨hSize⟩ | ⟨hSize, ⟨hAlignment⟩ | ⟨-, ⟨⟩⟩⟩ := hMissing
    · rw [Decl.extract_of_unrecorded hSize]
      rfl
    · rw [Decl.extract_of_records hSize, Decl.extract_of_unrecorded hAlignment]
      rfl
  | dialect =>
    obtain ⟨q, legacy, variant, hProperty, hPatterns, -⟩ :=
      ExtractionModule.of_validate_dialect hValid
    rw [asked, hProperty] at hMissing
    obtain ⟨hQ⟩ | ⟨-, ⟨⟩⟩ := hMissing
    apply ExtractionModule.evaluate_dialect_of_firstFault hName hValid hResolved hProperty hPatterns
    -- the definition is the first of its list, whichever pattern it belongs to
    have hFault : CandidateFault p [] x (.query (.property p.label x.name)) :=
      .unanswered hQ.not_answers
    refine ⟨[], x, [], hSelected, faultless_nil, ?_⟩
    rcases match_of_mem_selected hPatterns (hSelected ▸ List.mem_singleton_self x) with
      hLegacy | ⟨hLegacy, hVariant⟩
    · exact Or.inl ⟨hLegacy, hFault⟩
    · exact Or.inr ⟨hLegacy, hVariant, hFault⟩

/-- **Recorded facts.** Every row of a layout module is made of numbers that the dump holds for a
selected definition. Where a single definition is selected and the dump does not hold a number that
is asked for, there are no rows: the error names the property and the definition. -/
theorem evaluate_recorded {m : LayoutModule} {c : Catalog} {largeFile : List Define} {d : Directive}
    (hName : d.moduleName = m.toModule.name) :
    let selected := c.selected largeFile NodeKind.layoutKinds d
    let result := Registry.standard.evaluate c.openSession largeFile d
    (∀ emission, result = .ok emission → ∀ row ∈ emission.rows, ∃ x ∈ selected, m.RowOf d x row) ∧
    (m.toModule.validate d = .ok () → (∀ header ∈ d.headers, (c.resolve? header).isSome) →
      ∀ x p, selected = [x] → x.FirstUnrecorded (m.asked d) p →
        result = .error (.query (.property p.label x.name))) := by
  intro selected result
  constructor
  · intro emission hOk row hRow
    exact rowOf_of_evaluate hName hOk hRow
  · intro hValid hResolved x p hSelected hMissing
    exact evaluate_of_firstUnrecorded hName hValid hResolved hSelected hMissing

/-- The size and alignment of a type are written as they are recorded, and the offset of a member
that is recorded twice, first as the least of all words, is not written at all. -/
theorem evaluate_recorded_leastWord :
    let pair : Decl :=
      (((Decl.struct "pair").withLayout 16 8).withField "m" Int64.minValue).withField "m" 8
    let c : Catalog := { dump := ({ target := "x86_64-linux" } : Dump).addHeader "t.h" [pair] }
    let opaquePair : Directive :=
      { moduleName := "opaque"
        headers := ["t.h"]
        options := { patterns := (NamePattern.ofSource? "pair").toList } }
    let offset : Directive :=
      { moduleName := "property"
        headers := ["t.h"]
        options := { opaquePair.options with property := some (.offset "m") } }
    let row := "#[repr(C)]\npub struct pair \x7b\n    _opaque: [u64; 2],\n\x7d"
    opaquePair.moduleName = opaqueType.toModule.name ∧
      Registry.standard.evaluate c.openSession [] opaquePair = .ok { rows := [row] } ∧
      (∃ x ∈ c.selected [] NodeKind.layoutKinds opaquePair, opaqueType.RowOf opaquePair x row) ∧
      offset.moduleName = property.toModule.name ∧
      Registry.standard.evaluate c.openSession [] offset =
        .error (.query (.property "offset of 'm'" "pair")) := by
  intro pair c opaquePair offset row
  have hOk : Registry.standard.evaluate c.openSession [] opaquePair = .ok { rows := [row] } := by
    decide +kernel
  have hRow : ∃ x ∈ c.selected [] NodeKind.layoutKinds opaquePair,
      opaqueType.RowOf opaquePair x row :=
    (evaluate_recorded rfl).1 _ hOk row (List.mem_singleton_self row)
  have hValid : property.toModule.validate offset = .ok () := by decide +kernel
  have hResolved : ∀ header ∈ offset.headers, (c.resolve? header).isSome := by decide +kernel
  have hSelected : c.selected [] NodeKind.layoutKinds offset = [pair] := by decide +kernel
  have hLeast : pair.recorded? (.offset "m") = some Int64.minValue := by decide
  have hMissing : pair.FirstUnrecorded (property.asked offset) (.offset "m") :=
    .here (.negative hLeast (by decide))
  have hRefused := (evaluate_recorded rfl).2 hValid hResolved pair _ hSelected hMissing
  exact ⟨rfl, hOk, hRow, rfl, hRefused⟩

end LayoutModule

end HeaderFacts

import HeaderFacts.Proofs.FirstFailure
import HeaderFacts.Proofs.SoleMatch

/-!
# A legacy type and its large-file variant

The dialect module goes once through the definitions that a directive is about and sorts them into
two lists: those whose name matches the first pattern, and those whose name matches only the second.
Each list may have one member, which must answer the property that is asked for. The first
definition that breaks this decides the error, whichever list it belongs to; otherwise the two
answers, either of which may be missing, decide the dialect.

Main definitions:

* `Decl.Answers` — the number that a frontend recorded for a property.
* `legacyOf`, `variantsOf` — the two lists.
* `Found` — the answer of a list with at most one member.
* `CandidateFault`, `VariantFault` — what is wrong with a definition after the ones before it, in its
  list and in the search.
* `Chosen`, `Unrecognized` — the value that the two lists call for, and answers that call for none.

Main results:

* `Slots.add_of_faultless`, `Slots.add_of_fault` — what one definition does to the search.
* `Slots.foldlM_add_of_faultless`, `Slots.foldlM_add_of_firstFault` — what the search comes to.
* `search_cases` — how a search can end.
* `evaluate_dialect_of_firstFault`, `evaluate_dialect_of_found` — what the module makes of a
  directive.
* `evaluate_dialect_iff` — exactly when it emits a value, and with which error it fails otherwise.
-/

namespace HeaderFacts

/-! ## Answers -/

/-- The number that the frontend recorded for a property of a declaration. A negative one is no
answer. -/
def Decl.Answers (d : Decl) (p : Property) (n : Nat) : Prop :=
  ∃ layout, d.layout = some layout ∧ (layout.record p).toInt = n

variable {p : Property}

theorem Decl.extract_eq_ok_iff {d : Decl} {n : Nat} : d.extract p = .ok n ↔ d.Answers p n := by
  unfold Decl.extract Decl.Answers
  cases hLayout : d.layout with
  | none => simp
  | some layout =>
    by_cases hNegative : (layout.record p).toInt < 0
    · simp only [hNegative, if_true, Option.some.injEq, exists_eq_left']
      constructor
      · intro h
        cases h
      · intro h
        omega
    · simp only [hNegative, if_false, Except.ok.injEq, Option.some.injEq, exists_eq_left']
      omega

theorem Decl.extract_of_no_answer {d : Decl} (h : ∀ n, ¬ d.Answers p n) :
    d.extract p = .error (.query (.property p.label d.name)) := by
  unfold Decl.extract
  cases hLayout : d.layout with
  | none => rfl
  | some layout =>
    by_cases hNegative : (layout.record p).toInt < 0
    · simp [hNegative]
    · exact absurd ⟨layout, hLayout, by omega⟩ (h (layout.record p).toInt.toNat)

theorem Decl.answers_unique {d : Decl} {m n : Nat} (hm : d.Answers p m) (hn : d.Answers p n) :
    m = n := by
  rw [← Decl.extract_eq_ok_iff] at hm hn
  rw [hm] at hn
  cases hn
  rfl

/-! ## One list -/

/-- The answer of a list with at most one member; an empty list has none. -/
inductive Found (p : Property) : List Decl → Option Nat → Prop
  | absent : Found p [] none
  | present {d : Decl} {n : Nat} (h : d.Answers p n) : Found p [d] (some n)

/-- What is wrong with a member of a list after the earlier members of it. -/
inductive CandidateFault (p : Property) : List Decl → Decl → ExtractionError → Prop
  | unanswered {x : Decl} (h : ∀ n, ¬ x.Answers p n) :
      CandidateFault p [] x (.query (.property p.label x.name))
  /-- A second member is one too many, whether or not it answers. -/
  | second (first x : Decl) : CandidateFault p [first] x (.multipleMatches first.name x.name)

theorem found_unique {l : List Decl} {m n : Option Nat} (hm : Found p l m) (hn : Found p l n) :
    m = n := by
  cases hm with
  | absent =>
    cases hn
    rfl
  | present hm =>
    cases hn with
    | present hn => rw [Decl.answers_unique hm hn]

/-- A list with an answer has no faulty member. -/
theorem not_candidateFault_of_found {earlier later : List Decl} {x : Decl} {n : Option Nat}
    (h : Found p (earlier ++ x :: later) n) (err : ExtractionError) :
    ¬ CandidateFault p earlier x err := by
  intro hFault
  cases hFault with
  | unanswered hNone =>
    cases h with
    | present hAnswers => exact hNone _ hAnswers
  | second first => cases h

namespace Slots

/-- A slot that holds the name and the answer of the only member of a list, or is free for a list
without members. -/
inductive Holds (p : Property) : List Decl → Option (String × Nat) → Prop
  | free : Holds p [] none
  | taken {d : Decl} {n : Nat} (h : d.Answers p n) : Holds p [d] (some (d.name, n))

theorem Holds.found {l : List Decl} {slot : Option (String × Nat)} (h : Holds p l slot) :
    Found p l (slot.map Prod.snd) := by
  cases h with
  | free => exact .absent
  | taken h => exact .present h

theorem fill_of_faultless {earlier : List Decl} {x : Decl} {slot : Option (String × Nat)}
    (hSlot : Holds p earlier slot) (hFree : ∀ err, ¬ CandidateFault p earlier x err) :
    ∃ slot', fill p slot x = .ok slot' ∧ Holds p (earlier ++ [x]) slot' := by
  cases hSlot with
  | free =>
    -- the first member of its list, so all that could be wrong is a missing answer
    have hAnswers : ∃ n, x.Answers p n := by
      by_contra hNone
      rw [not_exists] at hNone
      exact hFree _ (.unanswered hNone)
    obtain ⟨n, hn⟩ := hAnswers
    refine ⟨some (x.name, n), ?_, .taken hn⟩
    simp [fill, Decl.extract_eq_ok_iff.2 hn, Except.map]
  | taken => exact absurd (.second _ x) (hFree _)

theorem fill_of_fault {earlier : List Decl} {x : Decl} {slot : Option (String × Nat)}
    {err : ExtractionError} (hSlot : Holds p earlier slot) (hFault : CandidateFault p earlier x err) :
    fill p slot x = .error err := by
  cases hFault with
  | unanswered hNone =>
    cases hSlot with
    | free => simp [fill, Decl.extract_of_no_answer hNone, Except.map]
  | second first =>
    cases hSlot with
    | taken h => rfl

end Slots

/-! ## Two lists -/

section Lists

variable (legacy variant : NamePattern)

/-- The declarations that the pattern of the legacy type matches. -/
def legacyOf (decls : List Decl) : List Decl :=
  decls.filter fun x => legacy.isMatch x.name

/-- The declarations that only the pattern of the large-file variant matches. -/
def variantsOf (decls : List Decl) : List Decl :=
  decls.filter fun x => !legacy.isMatch x.name && variant.isMatch x.name

/-- What is wrong with a declaration after the ones before it: it is judged in the list that it
belongs to. -/
def VariantFault (p : Property) (before : List Decl) (x : Decl) (err : ExtractionError) : Prop :=
  legacy.isMatch x.name = true ∧ CandidateFault p (legacyOf legacy before) x err ∨
    legacy.isMatch x.name = false ∧ variant.isMatch x.name = true ∧
      CandidateFault p (variantsOf legacy variant before) x err

/-- What the search has found after some declarations. -/
def Slots.Searched (p : Property) (before : List Decl) (s : Slots) : Prop :=
  Slots.Holds p (legacyOf legacy before) s.legacy ∧
    Slots.Holds p (variantsOf legacy variant before) s.largeFile

variable {legacy variant}

theorem legacyOf_append (l r : List Decl) :
    legacyOf legacy (l ++ r) = legacyOf legacy l ++ legacyOf legacy r :=
  List.filter_append ..

theorem variantsOf_append (l r : List Decl) :
    variantsOf legacy variant (l ++ r) =
      variantsOf legacy variant l ++ variantsOf legacy variant r :=
  List.filter_append ..

namespace Slots

variable {s : Slots} {x : Decl} {before : List Decl}

theorem add_of_legacy (h : legacy.isMatch x.name = true) :
    add [legacy, variant] p s x = (fill p s.legacy x).map fun slot => { s with legacy := slot } := by
  simp only [add, List.findIdx?_cons, h]
  rfl

theorem add_of_variant (hLegacy : legacy.isMatch x.name = false)
    (hVariant : variant.isMatch x.name = true) :
    add [legacy, variant] p s x =
      (fill p s.largeFile x).map fun slot => { s with largeFile := slot } := by
  simp only [add, List.findIdx?_cons, hLegacy, hVariant]
  rfl

theorem add_of_neither (hLegacy : legacy.isMatch x.name = false)
    (hVariant : variant.isMatch x.name = false) : add [legacy, variant] p s x = .ok s := by
  simp only [add, List.findIdx?_cons, hLegacy, hVariant]
  rfl

/-- A definition that is not faulty is taken into its list. -/
theorem add_of_faultless (hSearched : Searched legacy variant p before s)
    (hFree : ∀ err, ¬ VariantFault legacy variant p before x err) :
    ∃ s', add [legacy, variant] p s x = .ok s' ∧
      Searched legacy variant p (before ++ [x]) s' := by
  obtain ⟨hLegacySlot, hVariantSlot⟩ := hSearched
  -- the first pattern decides first; one slot changes and the other list stays as it was
  cases hLegacy : legacy.isMatch x.name with
  | true =>
    have hNone : ∀ err, ¬ CandidateFault p (legacyOf legacy before) x err :=
      fun err h => hFree err (Or.inl ⟨hLegacy, h⟩)
    obtain ⟨slot, hFill, hHolds⟩ := fill_of_faultless hLegacySlot hNone
    refine ⟨{ s with legacy := slot }, by rw [add_of_legacy hLegacy, hFill]; rfl, ?_, ?_⟩
    · rw [legacyOf_append]
      simpa [legacyOf, hLegacy] using hHolds
    · rw [variantsOf_append]
      simpa [variantsOf, hLegacy] using hVariantSlot
  | false =>
    cases hVariant : variant.isMatch x.name with
    | true =>
      have hNone : ∀ err, ¬ CandidateFault p (variantsOf legacy variant before) x err :=
        fun err h => hFree err (Or.inr ⟨hLegacy, hVariant, h⟩)
      obtain ⟨slot, hFill, hHolds⟩ := fill_of_faultless hVariantSlot hNone
      refine ⟨{ s with largeFile := slot }, by rw [add_of_variant hLegacy hVariant, hFill]; rfl,
        ?_, ?_⟩
      · rw [legacyOf_append]
        simpa [legacyOf, hLegacy] using hLegacySlot
      · rw [variantsOf_append]
        simpa [variantsOf, hLegacy, hVariant] using hHolds
    | false =>
      refine ⟨s, add_of_neither hLegacy hVariant, ?_, ?_⟩
      · rw [legacyOf_append]
        simpa [legacyOf, hLegacy] using hLegacySlot
      · rw [variantsOf_append]
        simpa [variantsOf, hLegacy, hVariant] using hVariantSlot

/-- A faulty definition ends the search. -/
theorem add_of_fault {err : ExtractionError} (hSearched : Searched legacy variant p before s)
    (hFault : VariantFault legacy variant p before x err) :
    add [legacy, variant] p s x = .error err := by
  obtain ⟨hLegacySlot, hVariantSlot⟩ := hSearched
  rcases hFault with ⟨hLegacy, hFault⟩ | ⟨hLegacy, hVariant, hFault⟩
  · rw [add_of_legacy hLegacy, fill_of_fault hLegacySlot hFault]
    rfl
  · rw [add_of_variant hLegacy hVariant, fill_of_fault hVariantSlot hFault]
    rfl

theorem searched_nil : Searched legacy variant p [] {} :=
  ⟨.free, .free⟩

/-- The search through faultless declarations finds the answers of both lists. -/
theorem foldlM_add_of_faultless {decls : List Decl}
    (h : Faultless (VariantFault legacy variant p) decls) :
    ∃ s, decls.foldlM (add [legacy, variant] p) {} = .ok s ∧
      Searched legacy variant p decls s :=
  foldlM_of_faultless searched_nil (fun _ _ _ => add_of_faultless) h

/-- The search fails with the first fault. -/
theorem foldlM_add_of_firstFault {decls : List Decl} {err : ExtractionError}
    (h : FirstFault (VariantFault legacy variant p) decls err) :
    decls.foldlM (add [legacy, variant] p) {} = .error err :=
  foldlM_of_firstFault searched_nil (fun _ _ _ => add_of_faultless)
    (fun _ _ _ _ => add_of_fault) h

end Slots

/-- Where both lists have an answer, no declaration is faulty. -/
theorem faultless_of_found {decls : List Decl} {m n : Option Nat}
    (hLegacy : Found p (legacyOf legacy decls) m)
    (hVariant : Found p (variantsOf legacy variant decls) n) :
    Faultless (VariantFault legacy variant p) decls := by
  rintro before x after err rfl hFault
  -- in its own list the faulty declaration follows what is before it there too
  rw [legacyOf_append] at hLegacy
  rw [variantsOf_append] at hVariant
  rcases hFault with ⟨hMatch, hFault⟩ | ⟨hNoMatch, hMatch, hFault⟩
  · have hHead : legacyOf legacy (x :: after) = x :: legacyOf legacy after := by
      simp [legacyOf, hMatch]
    rw [hHead] at hLegacy
    exact not_candidateFault_of_found hLegacy err hFault
  · have hHead : variantsOf legacy variant (x :: after) = x :: variantsOf legacy variant after := by
      simp [variantsOf, hNoMatch, hMatch]
    rw [hHead] at hVariant
    exact not_candidateFault_of_found hVariant err hFault

end Lists

/-! ## The dialect -/

/-- The value that the two answers call for: the large-file one if it is not the smaller, and the
legacy one if it is alone. -/
def Candidates.Calls : Candidates → Nat → Prop
  | ⟨some m, none⟩, value => value = m
  | ⟨some m, some n⟩, value => m ≤ n ∧ value = n
  | ⟨none, _⟩, _ => False

theorem DialectSelector.resolve_standard_of_calls {c : Candidates} {value : Nat}
    (h : c.Calls value) : ∃ dialect, standard.resolve c = .ok ⟨dialect, value⟩ := by
  match c, h with
  | ⟨some m, none⟩, rfl => exact ⟨"musl", rfl⟩
  | ⟨some m, some n⟩, ⟨hLe, rfl⟩ =>
    refine ⟨"gnu", ?_⟩
    simp [resolve, standard, DialectRule.matchesCandidates, Presence.admits, Candidates.inOrder,
      Candidates.pick, hLe]

theorem DialectSelector.resolve_standard_of_not_calls {c : Candidates}
    (h : ∀ value, ¬ c.Calls value) :
    standard.resolve c = .error (.unrecognizedDialect c.legacy c.largeFile) := by
  match c, h with
  | ⟨some m, none⟩, h => exact absurd rfl (h m)
  | ⟨some m, some n⟩, h =>
    have hGreater : ¬ m ≤ n := fun hLe => h n ⟨hLe, rfl⟩
    simp [resolve, standard, DialectRule.matchesCandidates, Presence.admits, Candidates.inOrder,
      hGreater]
  | ⟨none, none⟩, _ => rfl
  | ⟨none, some n⟩, _ => rfl

/-- The value that the two lists call for: that of the only variant if there is one, which must not
be smaller than that of the legacy type, and otherwise that of the legacy type. -/
def Chosen (p : Property) (legacies variants : List Decl) (value : Nat) : Prop :=
  ∃ x m, legacies = [x] ∧ x.Answers p m ∧
    (variants = [] ∧ value = m ∨ ∃ y, variants = [y] ∧ y.Answers p value ∧ m ≤ value)

theorem chosen_iff {legacies variants : List Decl} {value : Nat} :
    Chosen p legacies variants value ↔
      ∃ m n, Found p legacies m ∧ Found p variants n ∧ Candidates.Calls ⟨m, n⟩ value := by
  constructor
  · rintro ⟨x, m, rfl, hm, ⟨rfl, rfl⟩ | ⟨y, rfl, hn, hLe⟩⟩
    · exact ⟨some value, none, .present hm, .absent, rfl⟩
    · exact ⟨some m, some value, .present hm, .present hn, hLe, rfl⟩
  · rintro ⟨m, n, hLegacy, hVariant, hCalls⟩
    cases hLegacy with
    | absent => exact absurd hCalls id
    | @present x m hm =>
      cases hVariant with
      | absent => exact ⟨x, m, rfl, hm, Or.inl ⟨rfl, hCalls⟩⟩
      | @present y n hn =>
        obtain ⟨hLe, rfl⟩ := hCalls
        exact ⟨x, m, rfl, hm, Or.inr ⟨y, rfl, hn, hLe⟩⟩

/-- The two lists have answers that call for no value. -/
def Unrecognized (p : Property) (legacies variants : List Decl) (m n : Option Nat) : Prop :=
  Found p legacies m ∧ Found p variants n ∧ ∀ value, ¬ Chosen p legacies variants value

/-- How a search can end: at a faulty declaration, with a value, or with answers that call for
none. -/
theorem search_cases {legacy variant : NamePattern} (decls : List Decl) :
    (∃ err, FirstFault (VariantFault legacy variant p) decls err) ∨
      (∃ value, Chosen p (legacyOf legacy decls) (variantsOf legacy variant decls) value) ∨
        ∃ m n, Unrecognized p (legacyOf legacy decls) (variantsOf legacy variant decls) m n := by
  rcases faultless_or_firstFault (VariantFault legacy variant p) decls with hFree | hFault
  · -- a search without faults has both answers
    obtain ⟨s, -, hLegacy, hVariant⟩ := Slots.foldlM_add_of_faultless hFree
    by_cases hSome : ∃ value,
        Chosen p (legacyOf legacy decls) (variantsOf legacy variant decls) value
    · exact Or.inr (Or.inl hSome)
    · rw [not_exists] at hSome
      exact Or.inr (Or.inr ⟨_, _, hLegacy.found, hVariant.found, hSome⟩)
  · exact Or.inl hFault

/-! ## The module -/

namespace ExtractionModule

/-- A directive that the dialect module has checked asks for a property and gives two patterns, and
its row is no cell. -/
theorem of_validate_dialect {d : Directive} (h : dialect.validate d = .ok ()) :
    ∃ p legacy variant, d.options.property = some p ∧ d.options.patterns = [legacy, variant] ∧
      d.options.composite = false := by
  simp only [dialect, dialectWith, requestedProperty, rejectFlag] at h
  cases hCommon : checkCommon "dialect" .exactlyOne d with
  | error err =>
    rw [hCommon] at h
    cases h
  | ok _ =>
    rw [hCommon] at h
    cases hProperty : d.options.property with
    | none =>
      rw [hProperty] at h
      cases h
    | some p =>
      rw [hProperty] at h
      by_cases hCount : d.options.patterns.length = 2
      · obtain ⟨legacy, variant, hPatterns⟩ := List.length_eq_two.1 hCount
        refine ⟨p, legacy, variant, rfl, hPatterns, ?_⟩
        cases hComposite : d.options.composite with
        | false => rfl
        | true =>
          rw [hComposite, if_neg (not_not_intro hCount)] at h
          cases h
      · rw [if_pos hCount] at h
        cases h

section Emission

variable {c : Catalog} {largeFile : List Define} {d : Directive} {legacy variant : NamePattern}
variable (hName : d.moduleName = "dialect") (hValid : dialect.validate d = .ok ())
  (hResolved : ∀ header ∈ d.headers, (c.resolve? header).isSome)
  (hProperty : d.options.property = some p) (hPatterns : d.options.patterns = [legacy, variant])

include hName hValid hResolved hProperty hPatterns

/-- What the module makes of a directive whose headers can all be found: a search through the
selected definitions, and the dialect of what it finds. -/
theorem evaluate_dialect_eq :
    Registry.standard.evaluate c.openSession largeFile d = do
      let slots ← (c.selected largeFile NodeKind.layoutKinds d).foldlM
        (Slots.add [legacy, variant] p) {}
      let resolution ← DialectSelector.standard.resolve slots.candidates
      return { rows := [toString resolution.value], composite := d.options.composite } := by
  have hBuiltin : dialect ∈ builtins := by simp [builtins]
  rw [Registry.evaluate_builtin hBuiltin hName hValid hResolved, ← c.filter_definitions]
  simp only [dialect, dialectWith, requestedProperty, hProperty, hPatterns,
    Session.gather_eq_foldlM]
  rfl

/-- The first faulty definition decides the error. -/
theorem evaluate_dialect_of_firstFault {err : ExtractionError}
    (hFault : FirstFault (VariantFault legacy variant p)
      (c.selected largeFile NodeKind.layoutKinds d) err) :
    Registry.standard.evaluate c.openSession largeFile d = .error err := by
  rw [evaluate_dialect_eq hName hValid hResolved hProperty hPatterns,
    Slots.foldlM_add_of_firstFault hFault]
  rfl

/-- The answers of the two lists decide the dialect. -/
theorem evaluate_dialect_of_found {m n : Option Nat}
    (hLegacy : Found p (legacyOf legacy (c.selected largeFile NodeKind.layoutKinds d)) m)
    (hVariant : Found p (variantsOf legacy variant (c.selected largeFile NodeKind.layoutKinds d)) n) :
    Registry.standard.evaluate c.openSession largeFile d =
      (DialectSelector.standard.resolve ⟨m, n⟩).map fun resolution =>
        { rows := [toString resolution.value], composite := d.options.composite } := by
  obtain ⟨slots, hSearch, hLegacySlot, hVariantSlot⟩ :=
    Slots.foldlM_add_of_faultless (faultless_of_found hLegacy hVariant)
  have hCandidates : slots.candidates = ⟨m, n⟩ := by
    rw [Slots.candidates, found_unique hLegacySlot.found hLegacy,
      found_unique hVariantSlot.found hVariant]
  rw [evaluate_dialect_eq hName hValid hResolved hProperty hPatterns, hSearch, ← hCandidates]
  rfl

/-- A value that the two lists call for is emitted. -/
theorem evaluate_dialect_of_chosen {value : Nat}
    (h : Chosen p (legacyOf legacy (c.selected largeFile NodeKind.layoutKinds d))
      (variantsOf legacy variant (c.selected largeFile NodeKind.layoutKinds d)) value) :
    Registry.standard.evaluate c.openSession largeFile d =
      .ok { rows := [toString value], composite := d.options.composite } := by
  obtain ⟨m, n, hLegacy, hVariant, hCalls⟩ := chosen_iff.1 h
  obtain ⟨name, hResolve⟩ := DialectSelector.resolve_standard_of_calls hCalls
  rw [evaluate_dialect_of_found hName hValid hResolved hProperty hPatterns hLegacy hVariant,
    hResolve]
  rfl

/-- Two answers that call for no value are reported. -/
theorem evaluate_dialect_of_unrecognized {m n : Option Nat}
    (h : Unrecognized p (legacyOf legacy (c.selected largeFile NodeKind.layoutKinds d))
      (variantsOf legacy variant (c.selected largeFile NodeKind.layoutKinds d)) m n) :
    Registry.standard.evaluate c.openSession largeFile d = .error (.unrecognizedDialect m n) := by
  obtain ⟨hLegacy, hVariant, hNone⟩ := h
  have hCalls : ∀ value, ¬ Candidates.Calls ⟨m, n⟩ value :=
    fun value hValue => hNone value (chosen_iff.2 ⟨m, n, hLegacy, hVariant, hValue⟩)
  rw [evaluate_dialect_of_found hName hValid hResolved hProperty hPatterns hLegacy hVariant,
    DialectSelector.resolve_standard_of_not_calls hCalls]
  rfl

end Emission

/-- **Dialects.** The module emits one row, with the value that the two lists call for, exactly when
they call for one. It fails with the error of the first faulty definition, exactly when there is
one, and otherwise, where the two answers are those of no dialect, with both of them. -/
theorem evaluate_dialect_iff {c : Catalog} {largeFile : List Define} {d : Directive}
    (hName : d.moduleName = "dialect") (hValid : dialect.validate d = .ok ())
    (hResolved : ∀ header ∈ d.headers, (c.resolve? header).isSome) :
    ∃ p legacy variant, d.options.property = some p ∧ d.options.patterns = [legacy, variant] ∧
      let selected := c.selected largeFile NodeKind.layoutKinds d
      let legacies := legacyOf legacy selected
      let variants := variantsOf legacy variant selected
      let result := Registry.standard.evaluate c.openSession largeFile d
      (∀ emission, result = .ok emission ↔
        ∃ value, Chosen p legacies variants value ∧
          emission = { rows := [toString value], composite := false }) ∧
      ∀ err, result = .error err ↔
        FirstFault (VariantFault legacy variant p) selected err ∨
          ∃ m n, Unrecognized p legacies variants m n ∧ err = .unrecognizedDialect m n := by
  obtain ⟨p, legacy, variant, hProperty, hPatterns, hComposite⟩ := of_validate_dialect hValid
  refine ⟨p, legacy, variant, hProperty, hPatterns, ?_⟩
  intro selected legacies variants result
  have hFault {err} (h : FirstFault (VariantFault legacy variant p) selected err) :
      result = .error err :=
    evaluate_dialect_of_firstFault hName hValid hResolved hProperty hPatterns h
  have hChosen {value} (h : Chosen p legacies variants value) :
      result = .ok { rows := [toString value], composite := false } := by
    rw [← hComposite]
    exact evaluate_dialect_of_chosen hName hValid hResolved hProperty hPatterns h
  have hUnrecognized {m n} (h : Unrecognized p legacies variants m n) :
      result = .error (.unrecognizedDialect m n) :=
    evaluate_dialect_of_unrecognized hName hValid hResolved hProperty hPatterns h
  -- one of the three is the case, and each excludes the result of the others
  have hCases : (∃ err, FirstFault (VariantFault legacy variant p) selected err) ∨
      (∃ value, Chosen p legacies variants value) ∨
        ∃ m n, Unrecognized p legacies variants m n := search_cases selected
  constructor
  · intro emission
    constructor
    · intro hOk
      rcases hCases with ⟨err, hFirst⟩ | ⟨value, hValue⟩ | ⟨m, n, hNone⟩
      · rw [hFault hFirst] at hOk
        cases hOk
      · rw [hChosen hValue] at hOk
        cases hOk
        exact ⟨value, hValue, rfl⟩
      · rw [hUnrecognized hNone] at hOk
        cases hOk
    · rintro ⟨value, hValue, rfl⟩
      exact hChosen hValue
  · intro err
    constructor
    · intro hErr
      rcases hCases with ⟨other, hFirst⟩ | ⟨value, hValue⟩ | ⟨m, n, hNone⟩
      · rw [hFault hFirst] at hErr
        cases hErr
        exact Or.inl hFirst
      · rw [hChosen hValue] at hErr
        cases hErr
      · rw [hUnrecognized hNone] at hErr
        cases hErr
        exact Or.inr ⟨m, n, hNone, rfl⟩
    · rintro (hFirst | ⟨m, n, hNone, rfl⟩)
      · exact hFault hFirst
      · exact hUnrecognized hNone

/-- A variant that only large-file definitions show, before a forward declaration and a definition of
the legacy type. -/
theorem evaluate_dialect_iff_largeFile :
    let first : NamePattern := (NamePattern.ofSource? "dirent").get (by decide)
    let second : NamePattern := (NamePattern.ofSource? "dirent6.").get (by decide)
    let legacy : Decl := ((Decl.struct "dirent").withLayout 280 8).withField "d_name" 11
    let variant : Decl := ((Decl.struct "dirent64").withLayout 280 8).withField "d_name" 19
    let decls : List Decl := [variant.whenDefined "LFS" "1", legacy.forward, legacy]
    let c : Catalog :=
      { dump := ({ target := "x86_64-unknown-linux-gnu" } : Dump).addHeader "inc/dirent.h" decls
        includePaths := ["inc"] }
    let d : Directive :=
      { moduleName := "dialect"
        headers := ["dirent.h"]
        options :=
          { patterns := [first, second]
            property := some (.offset "d_name")
            largeFile := true } }
    d.moduleName = "dialect" ∧ dialect.validate d = .ok () ∧
      (∀ header ∈ d.headers, (c.resolve? header).isSome) ∧
      Registry.standard.evaluate c.openSession [("LFS", "1")] d =
        .ok { rows := ["19"], composite := false } := by
  intro first second legacy variant decls c d
  have hValid : dialect.validate d = .ok () := by decide +kernel
  have hResolved : ∀ header ∈ d.headers, (c.resolve? header).isSome := by decide +kernel
  obtain ⟨p, legacyPattern, variantPattern, hProperty, hPatterns, hOk, -⟩ :=
    @evaluate_dialect_iff c [("LFS", "1")] d rfl hValid hResolved
  obtain rfl : .offset "d_name" = p := Option.some.inj hProperty
  obtain ⟨rfl, hSecond⟩ := List.cons.inj hPatterns
  obtain ⟨rfl, -⟩ := List.cons.inj hSecond
  let selected := c.selected [("LFS", "1")] NodeKind.layoutKinds d
  have hLegacies : legacyOf first selected = [legacy] := by decide +kernel
  have hVariants : variantsOf first second selected = [variant.whenDefined "LFS" "1"] := by
    decide +kernel
  have hLegacy : legacy.Answers (.offset "d_name") 11 := ⟨_, rfl, by decide⟩
  have hVariant : (variant.whenDefined "LFS" "1").Answers (.offset "d_name") 19 :=
    ⟨_, rfl, by decide⟩
  have hChosen : Chosen (.offset "d_name") (legacyOf first selected)
      (variantsOf first second selected) 19 :=
    ⟨legacy, 11, hLegacies, hLegacy, Or.inr ⟨_, hVariants, hVariant, by decide⟩⟩
  exact ⟨rfl, hValid, hResolved, (hOk _).2 ⟨19, hChosen, rfl⟩⟩

end ExtractionModule

end HeaderFacts

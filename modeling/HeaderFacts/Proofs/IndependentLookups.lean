import HeaderFacts.Proofs.Variants

/-!
# Looking up each candidate on its own

The dialect module makes one pass for both of its name patterns, and a definition that both match
counts for the first alone. Two lookups, one for each pattern and each for exactly one definition,
are what this pass stands for. They agree with it as long as no definition that both patterns match
stands beside one that only the second matches. Where that happens the second lookup is ambiguous,
and the pass does not notice.

Main definitions:

* `lookup` — the only definition that passes the filters of a directive with one of its patterns.
* `Overlap` — two definitions that make the second pattern ambiguous without the pass noticing.

Main results:

* `lookup_eq_soleMatch` — a lookup, from the list of the selected definitions.
* `lookup_of_evaluate_dialect` — what the two lookups give where the module emits a value.
* `lookup_ambiguous_of_overlap` — a value that is emitted although the second lookup is ambiguous.
-/

namespace HeaderFacts

open ExtractionModule (definitionsOf renderProperty dialect)

/-! ## One pattern -/

/-- The lookup of a single pattern: the only definition that it matches among those that pass the
other filters. -/
def lookup (s : Session) (o : Options) (p : Property) (q : NamePattern) :
    Except ExtractionError (Option Matched) :=
  s.exactlyOne (definitionsOf NodeKind.layoutKinds) { o with patterns := [q] } (renderProperty p)

/-- One of several patterns is enough to pass the filters. -/
theorem Options.accepts_only {o : Options} {kinds : List NodeKind} {x : Decl} {q : NamePattern}
    (hq : q ∈ o.patterns) :
    { o with patterns := [q] }.accepts kinds x = (q.isMatch x.name && o.accepts kinds x) := by
  have hKind : { o with patterns := [q] }.acceptsKind kinds = o.acceptsKind kinds := rfl
  have hEnum : { o with patterns := [q] }.acceptsEnum = o.acceptsEnum := rfl
  cases hMatch : q.isMatch x.name with
  | false => simp [Options.accepts, Options.acceptsName, hMatch]
  | true =>
    have hAny : o.patterns.any (·.isMatch x.name) = true := List.any_eq_true.2 ⟨q, hq, hMatch⟩
    simp [Options.accepts, Options.acceptsName, hKind, hEnum, hMatch, hAny]

variable {c : Catalog} {largeFile : List Define} {d : Directive} {p : Property}

/-- A lookup sees the selected definitions that its pattern matches. -/
theorem lookup_eq_soleMatch {q : NamePattern} (hq : q ∈ d.options.patterns) :
    lookup (c.session largeFile d) d.options p q =
      soleMatch (renderProperty p)
        ((c.selected largeFile NodeKind.layoutKinds d).filter fun x => q.isMatch x.name) := by
  -- with its other patterns left out, the directive has the same session
  let only : Directive := { d with options := { d.options with patterns := [q] } }
  have hOnly : (c.session largeFile only).decls.filter
      ((definitionsOf NodeKind.layoutKinds).accepts only.options) =
        c.selected largeFile NodeKind.layoutKinds only :=
    c.filter_definitions largeFile NodeKind.layoutKinds only
  have hSelected : c.selected largeFile NodeKind.layoutKinds only =
      (c.selected largeFile NodeKind.layoutKinds d).filter fun x => q.isMatch x.name := by
    rw [Catalog.selected, Catalog.selected, List.filter_filter]
    apply List.filter_congr
    intro x _
    rw [Options.accepts_only hq, Bool.and_left_comm]
    rfl
  rw [lookup, Session.exactlyOne_eq, ← hSelected, ← hOnly]
  rfl

/-! ## What a lookup gives -/

/-- The lookup of a list with an answer gives the text of the answer. -/
theorem soleMatch_of_found {l : List Decl} {n : Option Nat} (h : Found p l n) :
    ∃ found, soleMatch (renderProperty p) l = .ok found ∧
      found.map Matched.fact = n.map toString := by
  cases h with
  | absent => exact ⟨none, rfl, rfl⟩
  | @present x n hAnswers =>
    refine ⟨some ⟨x.name, toString n⟩, ?_, rfl⟩
    simp only [soleMatch, renderProperty, Decl.extract_eq_ok_iff.2 hAnswers]
    rfl

/-- The lookup of a list with two members, the first of which answers, is ambiguous. -/
theorem soleMatch_of_two {x y : Decl} {rest : List Decl} {n : Nat} (h : x.Answers p n) :
    soleMatch (renderProperty p) (x :: y :: rest) = .error (.multipleMatches x.name y.name) := by
  simp only [soleMatch, renderProperty, Decl.extract_eq_ok_iff.2 h]
  rfl

theorem answers_of_found {l : List Decl} {n : Option Nat} (h : Found p l n) {x : Decl} (hx : x ∈ l) :
    ∃ k, x.Answers p k := by
  cases h with
  | absent => cases hx
  | present hAnswers =>
    rw [List.mem_singleton.1 hx]
    exact ⟨_, hAnswers⟩

/-! ## Overlapping patterns -/

section Overlaps

variable {legacy variant : NamePattern} {decls : List Decl}

/-- A declaration that both patterns match beside one that only the second matches. -/
def Overlap (legacy variant : NamePattern) (decls : List Decl) : Prop :=
  (∃ x ∈ decls, legacy.isMatch x.name = true ∧ variant.isMatch x.name = true) ∧
    ∃ y ∈ decls, legacy.isMatch y.name = false ∧ variant.isMatch y.name = true

instance : Decidable (Overlap legacy variant decls) :=
  inferInstanceAs (Decidable (_ ∧ _))

/-- Where patterns overlap, the second matches two declarations. -/
theorem two_of_overlap (h : Overlap legacy variant decls) :
    ∃ x y rest, decls.filter (fun x => variant.isMatch x.name) = x :: y :: rest := by
  obtain ⟨⟨x, hx, hxLegacy, hxVariant⟩, y, hy, hyLegacy, hyVariant⟩ := h
  have hxMem : x ∈ decls.filter fun x => variant.isMatch x.name := List.mem_filter.2 ⟨hx, hxVariant⟩
  have hyMem : y ∈ decls.filter fun x => variant.isMatch x.name := List.mem_filter.2 ⟨hy, hyVariant⟩
  match hList : decls.filter fun x => variant.isMatch x.name with
  | [] =>
    rw [hList] at hxMem
    cases hxMem
  | [z] =>
    -- the two cannot be the same declaration, for the first pattern tells them apart
    rw [hList] at hxMem hyMem
    rw [List.mem_singleton.1 hxMem] at hxLegacy
    rw [List.mem_singleton.1 hyMem, hxLegacy] at hyLegacy
    cases hyLegacy
  | a :: b :: rest => exact ⟨a, b, rest, hList⟩

/-- Every declaration that the second pattern matches is in one of the two lists. -/
theorem mem_lists_of_match {x : Decl} (hx : x ∈ decls) (hMatch : variant.isMatch x.name = true) :
    x ∈ legacyOf legacy decls ∨ x ∈ variantsOf legacy variant decls := by
  cases hLegacy : legacy.isMatch x.name with
  | true => exact Or.inl (List.mem_filter.2 ⟨hx, hLegacy⟩)
  | false => exact Or.inr (List.mem_filter.2 ⟨hx, by simp [hLegacy, hMatch]⟩)

/-- Without a declaration that both patterns match, the second matches the variants. -/
theorem filter_eq_variantsOf
    (h : ¬ ∃ x ∈ decls, legacy.isMatch x.name = true ∧ variant.isMatch x.name = true) :
    decls.filter (fun x => variant.isMatch x.name) = variantsOf legacy variant decls := by
  apply List.filter_congr
  intro x hx
  cases hLegacy : legacy.isMatch x.name with
  | false => simp
  | true =>
    cases hVariant : variant.isMatch x.name with
    | false => rfl
    | true => exact absurd ⟨x, hx, hLegacy, hVariant⟩ h

/-- Without a declaration that only the second pattern matches, there are no variants, and what it
matches are legacy types. -/
theorem filter_eq_filter_legacyOf
    (h : ¬ ∃ y ∈ decls, legacy.isMatch y.name = false ∧ variant.isMatch y.name = true) :
    variantsOf legacy variant decls = [] ∧
      decls.filter (fun x => variant.isMatch x.name) =
        (legacyOf legacy decls).filter fun x => variant.isMatch x.name := by
  have hBoth {x : Decl} (hx : x ∈ decls) (hVariant : variant.isMatch x.name = true) :
      legacy.isMatch x.name = true := by
    cases hLegacy : legacy.isMatch x.name with
    | true => rfl
    | false => exact absurd ⟨x, hx, hLegacy, hVariant⟩ h
  constructor
  · rw [variantsOf, List.filter_eq_nil_iff]
    intro x hx hMatch
    rw [Bool.and_eq_true, Bool.not_eq_true'] at hMatch
    rw [hBoth hx hMatch.2] at hMatch
    cases hMatch.1
  · rw [legacyOf, List.filter_filter]
    apply List.filter_congr
    intro x hx
    cases hVariant : variant.isMatch x.name with
    | false => rfl
    | true => rw [hBoth hx hVariant, Bool.and_self]

/-- Without an overlap the second pattern on its own has an answer that leads to the same value. -/
theorem calls_of_not_overlap {m n : Option Nat} {value : Nat}
    (hLegacy : Found p (legacyOf legacy decls) m)
    (hVariant : Found p (variantsOf legacy variant decls) n)
    (hCalls : Candidates.Calls ⟨m, n⟩ value) (h : ¬ Overlap legacy variant decls) :
    ∃ k, Found p (decls.filter fun x => variant.isMatch x.name) k ∧
      Candidates.Calls ⟨m, k⟩ value := by
  -- no definition matches both patterns, or none matches only the second
  rw [Overlap, Classical.not_and_iff_not_or_not] at h
  rcases h with hNoBoth | hNoOnly
  · rw [filter_eq_variantsOf hNoBoth]
    exact ⟨n, hVariant, hCalls⟩
  · obtain ⟨hNone, hFilter⟩ := filter_eq_filter_legacyOf hNoOnly
    rw [hNone] at hVariant
    cases hVariant
    rw [hFilter]
    generalize legacyOf legacy decls = legacies at hLegacy ⊢
    cases hLegacy with
    | absent => exact absurd hCalls id
    | @present x m hAnswers =>
      -- the legacy type may be found twice, and then it has no smaller value than itself
      cases hMatch : variant.isMatch x.name with
      | false => exact ⟨none, by simpa [hMatch] using Found.absent, hCalls⟩
      | true =>
        refine ⟨some m, by simpa [hMatch] using Found.present hAnswers, Nat.le_refl m, hCalls⟩

end Overlaps

/-! ## Both lookups -/

/-- What has been the case where the dialect module emits a value: both lists of the selected
definitions have answers, and the value is what they call for. -/
theorem found_of_evaluate_dialect {emission : Emission} (hName : d.moduleName = "dialect")
    (hOk : Registry.standard.evaluate c.openSession largeFile d = .ok emission) :
    ∃ p legacy variant, c.openSession (d.request largeFile) = .ok (c.session largeFile d) ∧
      d.options.property = some p ∧ d.options.patterns = [legacy, variant] ∧
      let selected := c.selected largeFile NodeKind.layoutKinds d
      ∃ m n value, Found p (legacyOf legacy selected) m ∧
        Found p (variantsOf legacy variant selected) n ∧ Candidates.Calls ⟨m, n⟩ value ∧
        emission = { rows := [toString value], composite := false } := by
  obtain ⟨module, s, hModule, hValid, hSession, -⟩ := Registry.steps_of_evaluate hOk
  have hDialect : Registry.standard.get? d.moduleName = some dialect := by
    rw [hName]
    have hBuiltin : dialect ∈ ExtractionModule.builtins := by simp [ExtractionModule.builtins]
    exact Registry.get?_standard_of_mem hBuiltin
  obtain rfl : dialect = module := Option.some.inj (hDialect.symm.trans hModule)
  have hResolved : ∀ header ∈ d.headers, (c.resolve? header).isSome :=
    c.resolved_of_openSession hSession
  obtain ⟨p, legacy, variant, hProperty, hPatterns, hComposite⟩ :=
    ExtractionModule.of_validate_dialect hValid
  refine ⟨p, legacy, variant, c.openSession_of_resolved hResolved, hProperty, hPatterns, ?_⟩
  intro selected
  -- of the ways a search can end, only one emits anything
  rcases @search_cases p legacy variant selected with
    ⟨err, hFault⟩ | ⟨value, hChosen⟩ | ⟨m, n, hNone⟩
  · rw [ExtractionModule.evaluate_dialect_of_firstFault hName hValid hResolved hProperty hPatterns
      hFault] at hOk
    cases hOk
  · rw [ExtractionModule.evaluate_dialect_of_chosen hName hValid hResolved hProperty hPatterns
      hChosen, hComposite] at hOk
    cases hOk
    obtain ⟨m, n, hLegacy, hVariant, hCalls⟩ := chosen_iff.1 hChosen
    exact ⟨m, n, value, hLegacy, hVariant, hCalls, rfl⟩
  · rw [ExtractionModule.evaluate_dialect_of_unrecognized hName hValid hResolved hProperty hPatterns
      hNone] at hOk
    cases hOk

/-- **Two lookups.** Where the dialect module emits a value, the lookup of its first pattern finds a
definition. The lookup of the second is ambiguous if the patterns overlap, and otherwise the value is
the one that the results of the two lookups resolve to. -/
theorem lookup_of_evaluate_dialect {emission : Emission} (hName : d.moduleName = "dialect")
    (hOk : Registry.standard.evaluate c.openSession largeFile d = .ok emission) :
    ∃ s p legacy variant, c.openSession (d.request largeFile) = .ok s ∧
      d.options.property = some p ∧ d.options.patterns = [legacy, variant] ∧
      let selected := c.selected largeFile NodeKind.layoutKinds d
      ∃ first m, lookup s d.options p legacy = .ok (some first) ∧ first.fact = toString m ∧
        (Overlap legacy variant selected →
          ∃ x y, lookup s d.options p variant = .error (.multipleMatches x y)) ∧
        (¬ Overlap legacy variant selected →
          ∃ second n resolution, lookup s d.options p variant = .ok second ∧
            second.map Matched.fact = n.map toString ∧
            DialectSelector.standard.resolve ⟨some m, n⟩ = .ok resolution ∧
            emission = { rows := [toString resolution.value], composite := false }) := by
  obtain ⟨p, legacy, variant, hSession, hProperty, hPatterns, m, n, value, hLegacy, hVariant, hCalls,
    rfl⟩ := found_of_evaluate_dialect hName hOk
  refine ⟨c.session largeFile d, p, legacy, variant, hSession, hProperty, hPatterns, ?_⟩
  intro selected
  have hFirst : lookup (c.session largeFile d) d.options p legacy =
      soleMatch (renderProperty p) (selected.filter fun x => legacy.isMatch x.name) :=
    lookup_eq_soleMatch (by simp [hPatterns])
  have hSecond : lookup (c.session largeFile d) d.options p variant =
      soleMatch (renderProperty p) (selected.filter fun x => variant.isMatch x.name) :=
    lookup_eq_soleMatch (by simp [hPatterns])
  obtain ⟨first, hMatch, hFact⟩ := soleMatch_of_found hLegacy
  -- no value is called for without a legacy type
  cases m with
  | none => exact absurd hCalls id
  | some m =>
    cases first with
    | none => cases hFact
    | some first =>
      refine ⟨first, m, hFirst.trans hMatch, Option.some.inj hFact, ?_, ?_⟩
      · intro hOverlap
        obtain ⟨x, y, rest, hTwo⟩ := two_of_overlap hOverlap
        -- the first of the two answers, for it is in one of the two lists of the search
        have hx : x ∈ selected.filter fun x => variant.isMatch x.name := by simp [hTwo]
        obtain ⟨hMem, hxMatch⟩ := List.mem_filter.1 hx
        obtain ⟨k, hAnswers⟩ : ∃ k, x.Answers p k := by
          rcases mem_lists_of_match hMem hxMatch with hIn | hIn
          · exact answers_of_found hLegacy hIn
          · exact answers_of_found hVariant hIn
        exact ⟨x.name, y.name, by rw [hSecond, hTwo, soleMatch_of_two hAnswers]⟩
      · intro hApart
        obtain ⟨k, hFound, hCallsApart⟩ := calls_of_not_overlap hLegacy hVariant hCalls hApart
        obtain ⟨second, hMatchSecond, hFactSecond⟩ := soleMatch_of_found hFound
        obtain ⟨name, hResolve⟩ := DialectSelector.resolve_standard_of_calls hCallsApart
        exact ⟨second, k, ⟨name, value⟩, hSecond.trans hMatchSecond, hFactSecond, hResolve, rfl⟩

/-- A type that both patterns match, and no other: both lookups find it. -/
theorem lookup_of_evaluate_dialect_sameType :
    let first : NamePattern := (NamePattern.ofSource? "dirent").get (by decide)
    let second : NamePattern := (NamePattern.ofSource? "dirent.*").get (by decide)
    let c : Catalog :=
      { dump := ({ target := "x86_64-unknown-linux-musl" } : Dump).addHeader "dirent.h"
          [(Decl.struct "dirent").withLayout 280 8] }
    let d : Directive :=
      { moduleName := "dialect"
        headers := ["dirent.h"]
        options := { patterns := [first, second], property := some .size } }
    Registry.standard.evaluate c.openSession [] d = .ok { rows := ["280"], composite := false } ∧
      ∃ s found other m n resolution, c.openSession (d.request []) = .ok s ∧
        lookup s d.options .size first = .ok (some found) ∧ found.fact = toString m ∧
        lookup s d.options .size second = .ok other ∧ other.map Matched.fact = n.map toString ∧
        DialectSelector.standard.resolve ⟨some m, n⟩ = .ok resolution ∧
        toString resolution.value = "280" := by
  intro first second c d
  have hOk : Registry.standard.evaluate c.openSession [] d =
      .ok { rows := ["280"], composite := false } := by
    decide +kernel
  have hApart : ¬ Overlap first second (c.selected [] NodeKind.layoutKinds d) := by decide +kernel
  obtain ⟨s, p, legacy, variant, hSession, hProperty, hPatterns, found, m, hFirst, hFact, -, hValue⟩ :=
    @lookup_of_evaluate_dialect c [] d _ rfl hOk
  obtain rfl : .size = p := Option.some.inj hProperty
  obtain ⟨rfl, hSecond⟩ := List.cons.inj hPatterns
  obtain ⟨rfl, -⟩ := List.cons.inj hSecond
  obtain ⟨other, n, resolution, hOther, hOtherFact, hResolve, hEmission⟩ := hValue hApart
  have hRow : toString resolution.value = "280" := by
    have hRows := congrArg Emission.rows hEmission
    exact (List.cons.inj hRows).1.symm
  exact ⟨hOk, s, found, other, m, n, resolution, hSession, hFirst, hFact, hOther, hOtherFact,
    hResolve, hRow⟩

/-- Overlapping patterns: the second matches two types, and the module takes the larger of them all
the same. -/
theorem lookup_ambiguous_of_overlap :
    let first : NamePattern := (NamePattern.ofSource? "dirent").get (by decide)
    let second : NamePattern := (NamePattern.ofSource? "dirent.*").get (by decide)
    let c : Catalog :=
      { dump := ({ target := "x86_64-unknown-linux-gnu" } : Dump).addHeader "dirent.h"
          [(Decl.struct "dirent").withLayout 280 8, (Decl.struct "dirent64").withLayout 288 8] }
    let d : Directive :=
      { moduleName := "dialect"
        headers := ["dirent.h"]
        options := { patterns := [first, second], property := some .size } }
    dialect.validate d = .ok () ∧
      Registry.standard.evaluate c.openSession [] d = .ok { rows := ["288"], composite := false } ∧
      lookup (c.session [] d) d.options .size second =
        .error (.multipleMatches "dirent" "dirent64") := by
  decide +kernel

end HeaderFacts

import HeaderFacts.Proofs.Evaluation
import HeaderFacts.Proofs.FirstFailure
import HeaderFacts.Proofs.Traversal

/-!
# Validation comes first

A directive is looked at before any header is. If its module is unknown or refuses it, the error is
the same whatever the headers hold, and it says that the directive is wrong. Once a module has
passed a directive, no declaration can bring such an error back: what is left are errors of the
headers and of the facts taken from them, each of which belongs to a few modules.

Main definitions:

* `FailsWithin` — a step that fails only with some errors.
* `ExtractionError.Refusal` — the errors that say that a directive is wrong.
* `ExtractionError.Arises` — the errors that a module can end with after it has passed a directive.

Main results:

* `failsWithin_validate` — modules refuse a directive only for what it says.
* `failsWithin_evaluate` — the errors of a directive that its module has passed.
* `length_rows_le_one`, `length_rows_eq_one` — how many rows a module makes.
* `Registry.evaluate_validated` — the three together, from the directive to the emission.
-/

namespace HeaderFacts

/-! ## Steps that fail only with some errors -/

/-- A step that fails does so with one of some errors. -/
def FailsWithin {ε α : Type} (allowed : ε → Prop) (x : Except ε α) : Prop :=
  ∀ err, x = .error err → allowed err

section Steps

variable {ε α β σ : Type} {allowed : ε → Prop}

theorem failsWithin_ok (y : α) : FailsWithin allowed (.ok y) := by
  intro err h
  cases h

theorem failsWithin_of_success {x : Except ε α} {y : α} (h : x = .ok y) :
    FailsWithin allowed x := by
  subst h
  exact failsWithin_ok y

theorem failsWithin_error {err : ε} (h : allowed err) :
    FailsWithin allowed (.error err : Except ε α) := by
  intro other hOther
  cases hOther
  exact h

/-- A second step matters only where the first has succeeded. -/
theorem failsWithin_bind {x : Except ε α} {f : α → Except ε β} (hx : FailsWithin allowed x)
    (hf : ∀ y, x = .ok y → FailsWithin allowed (f y)) : FailsWithin allowed (x >>= f) := by
  intro err h
  cases hFirst : x with
  | error first =>
    rw [hFirst] at h
    cases h
    exact hx err hFirst
  | ok y =>
    rw [hFirst] at h
    exact hf y hFirst err h

theorem failsWithin_map {x : Except ε α} (f : α → β) (hx : FailsWithin allowed x) :
    FailsWithin allowed (x.map f) := by
  intro err h
  cases hFirst : x with
  | error first =>
    rw [hFirst] at h
    cases h
    exact hx err hFirst
  | ok y =>
    rw [hFirst] at h
    cases h

theorem failsWithin_mapError {γ : Type} {x : Except γ α} {f : γ → ε} (hf : ∀ err, allowed (f err)) :
    FailsWithin allowed (x.mapError f) := by
  cases x with
  | error err => exact failsWithin_error (hf err)
  | ok y => exact failsWithin_ok y

theorem failsWithin_foldlM {f : σ → α → Except ε σ}
    (hStep : ∀ s x, FailsWithin allowed (f s x)) (l : List α) (start : σ) :
    FailsWithin allowed (l.foldlM f start) := by
  induction l generalizing start with
  | nil => exact failsWithin_ok start
  | cons x rest ih =>
    rw [List.foldlM_cons]
    exact failsWithin_bind (hStep start x) fun s _ => ih s

end Steps

/-! ## Refusing a directive -/

/-- The errors that say that a directive is wrong. -/
inductive ExtractionError.Refusal : ExtractionError → Prop
  | malformed (cause : Malformed) : Refusal (.malformed cause)
  | invalid (cause : InvalidArgument) : Refusal (.invalid cause)

namespace ExtractionModule

open ExtractionError (Refusal)

theorem failsWithin_checkCommon {name : String} {cardinality : Cardinality} {d : Directive} :
    FailsWithin Refusal (checkCommon name cardinality d) := by
  unfold checkCommon
  split
  · exact failsWithin_error (.malformed _)
  · split
    · exact failsWithin_error (.malformed _)
    · exact failsWithin_ok ()

theorem failsWithin_rejectFlag {name : String} {given : Bool} {flag : String} :
    FailsWithin Refusal (rejectFlag name given flag) := by
  unfold rejectFlag
  split
  · exact failsWithin_error (.invalid _)
  · exact failsWithin_ok ()

theorem failsWithin_requestedProperty {name : String} {d : Directive} :
    FailsWithin Refusal (requestedProperty name d) := by
  unfold requestedProperty
  split
  · exact failsWithin_ok _
  · exact failsWithin_error (.malformed _)

/-- Modules refuse a directive only for what it says. -/
theorem failsWithin_validate {m : ExtractionModule} (hBuiltin : m ∈ builtins) (d : Directive) :
    FailsWithin Refusal (m.validate d) := by
  -- each module is a chain of checks, in an order of its own
  cases m, hBuiltin using builtins_cases with
  | sizeOf => exact failsWithin_bind failsWithin_checkCommon fun _ _ => failsWithin_rejectFlag
  | property =>
    exact failsWithin_bind failsWithin_requestedProperty fun _ _ => failsWithin_checkCommon
  | macroTable =>
    refine failsWithin_bind failsWithin_checkCommon fun _ _ => ?_
    exact failsWithin_bind failsWithin_rejectFlag fun _ _ => failsWithin_rejectFlag
  | structTokens =>
    refine failsWithin_bind failsWithin_checkCommon fun _ _ => ?_
    exact failsWithin_bind failsWithin_rejectFlag fun _ _ => failsWithin_rejectFlag
  | opaqueType =>
    refine failsWithin_bind failsWithin_checkCommon fun _ _ => ?_
    refine failsWithin_bind failsWithin_rejectFlag fun _ _ => ?_
    exact failsWithin_bind failsWithin_rejectFlag fun _ _ => failsWithin_rejectFlag
  | fingerprint =>
    refine failsWithin_bind failsWithin_checkCommon fun _ _ => ?_
    refine failsWithin_bind failsWithin_rejectFlag fun _ _ => ?_
    exact failsWithin_bind failsWithin_rejectFlag fun _ _ => failsWithin_rejectFlag
  | enumTable => exact failsWithin_bind failsWithin_checkCommon fun _ _ => failsWithin_rejectFlag
  | dialect =>
    refine failsWithin_bind failsWithin_checkCommon fun _ _ => ?_
    refine failsWithin_bind failsWithin_requestedProperty fun _ _ => ?_
    split
    · exact failsWithin_error (.invalid _)
    · exact failsWithin_rejectFlag

end ExtractionModule

/-! ## Errors after the validation -/

/-- The errors that a module of a given name can end with after it has passed a directive. -/
inductive ExtractionError.Arises : String → ExtractionError → Prop
  | query {name : String} (cause : QueryError) : Arises name (.query cause)
  | multipleMatches {name : String}
      (hSole : name ∈ ["sizeof", "property", "struct", "opaque", "dialect"])
      (first second : String) : Arises name (.multipleMatches first second)
  | unsupportedAlignment (alignment : Nat) : Arises "opaque" (.unsupportedAlignment alignment)
  | unsupportedSize (size alignment : Nat) : Arises "opaque" (.unsupportedSize size alignment)
  | unrecognizedDialect (legacy largeFile : Option Nat) :
      Arises "dialect" (.unrecognizedDialect legacy largeFile)

open ExtractionError (Refusal Arises)

/-- None of them says that the directive is wrong. -/
theorem ExtractionError.Arises.not_refusal {name : String} {err : ExtractionError}
    (h : Arises name err) : ¬ Refusal err := by
  intro hRefusal
  cases hRefusal <;> cases h

theorem Decl.failsWithin_extract {name : String} {decl : Decl} {p : Property} :
    FailsWithin (Arises name) (decl.extract p) := by
  unfold Decl.extract
  split
  · exact failsWithin_error (.query _)
  · dsimp only
    split
    · exact failsWithin_error (.query _)
    · exact failsWithin_ok _

theorem failsWithin_opaqueSurrogate {typeName : String} {size alignment : Nat} :
    FailsWithin (Arises "opaque") (opaqueSurrogate typeName size alignment) := by
  have hElement : FailsWithin (Arises "opaque") (elementType alignment) := by
    unfold elementType
    split
    on_goal 5 => exact failsWithin_error (.unsupportedAlignment _)
    all_goals exact failsWithin_ok _
  refine failsWithin_bind hElement fun element _ => ?_
  split
  · exact failsWithin_error (.unsupportedSize ..)
  · exact failsWithin_ok _

theorem DialectSelector.failsWithin_resolve {selector : DialectSelector} {c : Candidates} :
    FailsWithin (Arises "dialect") (selector.resolve c) := by
  unfold resolve
  split
  · exact failsWithin_error (.unrecognizedDialect ..)
  · split
    · exact failsWithin_error (.unrecognizedDialect ..)
    · exact failsWithin_ok _

theorem Slots.failsWithin_fill {p : Property} {slot : Option (String × Nat)} {decl : Decl} :
    FailsWithin (Arises "dialect") (fill p slot decl) := by
  cases slot with
  | some taken => exact failsWithin_error (.multipleMatches (by simp) ..)
  | none => exact failsWithin_map _ Decl.failsWithin_extract

theorem Slots.failsWithin_add {patterns : List NamePattern} {p : Property} {slots : Slots}
    {decl : Decl} : FailsWithin (Arises "dialect") (slots.add patterns p decl) := by
  unfold Slots.add
  split
  · exact failsWithin_ok _
  · exact failsWithin_bind failsWithin_fill fun _ _ => failsWithin_ok _
  · exact failsWithin_bind failsWithin_fill fun _ _ => failsWithin_ok _

namespace ExtractionModule

variable {s : Session} {d : Directive} {kinds : List NodeKind}
variable {render : Decl → Except ExtractionError String}

/-- A search fails only as taking up a declaration does. -/
theorem failsWithin_gather {allowed : ExtractionError → Prop} {σ : Type} {rules : MatchRules}
    {o : Options} {take : σ → Decl → Except ExtractionError σ} {start : σ}
    (hTake : ∀ taken decl, FailsWithin allowed (take taken decl)) :
    FailsWithin allowed (s.gather rules o take start) := by
  rw [Session.gather_eq_foldlM]
  exact failsWithin_foldlM hTake _ start

theorem failsWithin_emitOne {name : String}
    (hSole : name ∈ ["sizeof", "property", "struct", "opaque", "dialect"])
    (hRender : ∀ decl, FailsWithin (Arises name) (render decl)) :
    FailsWithin (Arises name) (emitOne kinds render s d) := by
  refine failsWithin_bind (failsWithin_gather fun taken decl => ?_) fun _ _ => failsWithin_ok _
  cases taken with
  | some first => exact failsWithin_error (.multipleMatches hSole first.name decl.name)
  | none => exact failsWithin_bind (hRender decl) fun _ _ => failsWithin_ok _

theorem failsWithin_emitAll {name : String}
    (hRender : ∀ decl, FailsWithin (Arises name) (render decl)) :
    FailsWithin (Arises name) (emitAll kinds render s d) := by
  refine failsWithin_bind (failsWithin_gather fun rows decl => ?_) fun _ _ => failsWithin_ok _
  refine failsWithin_bind ?_ fun _ _ => failsWithin_ok _
  exact failsWithin_bind (hRender decl) fun _ _ => failsWithin_ok _

/-- The errors of a directive that its module has passed. -/
theorem failsWithin_evaluate {m : ExtractionModule} (hBuiltin : m ∈ builtins)
    (hValid : m.validate d = .ok ()) : FailsWithin (Arises m.name) (m.evaluate s d) := by
  cases m, hBuiltin using builtins_cases with
  | sizeOf =>
    exact failsWithin_emitOne (by simp [sizeOf]) fun decl =>
      failsWithin_map _ Decl.failsWithin_extract
  | property =>
    -- the module asks for its property a second time, which the validation has found
    obtain ⟨p, hAsked, -⟩ := ok_of_bind hValid
    refine failsWithin_bind (failsWithin_of_success hAsked) fun p _ => ?_
    exact failsWithin_emitOne (by simp [property]) fun decl =>
      failsWithin_map _ Decl.failsWithin_extract
  | macroTable => exact failsWithin_emitAll fun decl => failsWithin_ok _
  | structTokens => exact failsWithin_emitOne (by simp [structTokens]) fun decl => failsWithin_ok _
  | opaqueType =>
    refine failsWithin_emitOne (by simp [opaqueType]) fun decl => ?_
    refine failsWithin_bind Decl.failsWithin_extract fun size _ => ?_
    exact failsWithin_bind Decl.failsWithin_extract fun alignment _ => failsWithin_opaqueSurrogate
  | fingerprint =>
    exact failsWithin_bind (failsWithin_mapError .query) fun platform _ => failsWithin_ok _
  | enumTable =>
    refine failsWithin_emitAll fun decl => ?_
    unfold enumValue
    split
    · exact failsWithin_ok _
    · split
      · exact failsWithin_ok _
      · exact failsWithin_error (.query _)
  | dialect =>
    obtain ⟨-, -, hAsk⟩ := ok_of_bind hValid
    obtain ⟨p, hAsked, -⟩ := ok_of_bind hAsk
    refine failsWithin_bind (failsWithin_of_success hAsked) fun p _ => ?_
    refine failsWithin_bind (failsWithin_gather fun _ _ => Slots.failsWithin_add) fun slots _ => ?_
    exact failsWithin_bind DialectSelector.failsWithin_resolve fun _ _ => failsWithin_ok _

/-! ## Rows -/

theorem length_rows_ofMatch (o : Options) (matched : Option Matched) :
    (Emission.ofMatch o matched).rows.length ≤ 1 := by
  cases matched with
  | none => exact Nat.zero_le 1
  | some m => exact Nat.le_refl 1

theorem length_rows_of_emitOne {emission : Emission} (h : emitOne kinds render s d = .ok emission) :
    emission.rows.length ≤ 1 := by
  obtain ⟨matched, -, hEmission⟩ := ok_of_bind h
  cases hEmission
  exact length_rows_ofMatch d.options matched

/-- Four modules make no row or one. -/
theorem length_rows_le_one {m : ExtractionModule} (hBuiltin : m ∈ builtins)
    (hName : m.name ∈ ["sizeof", "property", "struct", "opaque"]) {emission : Emission}
    (h : m.evaluate s d = .ok emission) : emission.rows.length ≤ 1 := by
  cases m, hBuiltin using builtins_cases with
  | sizeOf => exact length_rows_of_emitOne h
  | property =>
    obtain ⟨p, -, hEmit⟩ := ok_of_bind h
    exact length_rows_of_emitOne hEmit
  | structTokens => exact length_rows_of_emitOne h
  | opaqueType => exact length_rows_of_emitOne h
  | _ => exact absurd hName (by decide)

/-- Two modules always make a row. -/
theorem length_rows_eq_one {m : ExtractionModule} (hBuiltin : m ∈ builtins)
    (hName : m.name ∈ ["dialect", "fingerprint"]) {emission : Emission}
    (h : m.evaluate s d = .ok emission) : emission.rows.length = 1 := by
  cases m, hBuiltin using builtins_cases with
  | fingerprint =>
    obtain ⟨platform, -, hEmission⟩ := ok_of_bind h
    cases hEmission
    rfl
  | dialect =>
    obtain ⟨p, -, hSearch⟩ := ok_of_bind h
    obtain ⟨slots, -, hResolve⟩ := ok_of_bind hSearch
    obtain ⟨resolution, -, hEmission⟩ := ok_of_bind hResolve
    cases hEmission
    rfl
  | _ => exact absurd hName (by decide)

end ExtractionModule

/-! ## From the directive to the emission -/

namespace Registry

/-- **Validation comes first.** A directive whose module is unknown or refuses it ends with the same
error for every service, and that error says that the directive is wrong. A directive that its
module passes never ends with such an error: a header that cannot be found is a query error, other
errors are left to the modules in which they arise, and the rows are as many as the module makes. -/
theorem evaluate_validated (largeFile : List Define) (d : Directive) :
    (standard.get? d.moduleName = none → ∀ service,
      standard.evaluate service largeFile d =
        .error (.malformed (.unknownModule d.moduleName))) ∧
    (∀ m err, standard.get? d.moduleName = some m → m.validate d = .error err →
      Refusal err ∧ ∀ service, standard.evaluate service largeFile d = .error err) ∧
    (∀ m, standard.get? d.moduleName = some m → m.validate d = .ok () →
      (∀ (c : Catalog) missing,
        d.headers.find? (fun header => (c.resolve? header).isNone) = some missing →
          standard.evaluate c.openSession largeFile d =
            .error (.query (.headerNotFound missing))) ∧
      (∀ service err, standard.evaluate service largeFile d = .error err →
        ¬ Refusal err ∧ Arises d.moduleName err) ∧
      (∀ service emission, standard.evaluate service largeFile d = .ok emission →
        (d.moduleName ∈ ["sizeof", "property", "struct", "opaque"] → emission.rows.length ≤ 1) ∧
        (d.moduleName ∈ ["dialect", "fingerprint"] → emission.rows.length = 1))) := by
  refine ⟨?_, ?_, ?_⟩
  · intro hUnknown service
    exact evaluate_of_unknown hUnknown service
  · intro m err hModule hRefused
    obtain ⟨hBuiltin, -⟩ := of_get?_standard hModule
    have hRefusal := ExtractionModule.failsWithin_validate hBuiltin d err hRefused
    exact ⟨hRefusal, evaluate_of_refused hModule hRefused⟩
  · intro m hModule hValid
    obtain ⟨hBuiltin, hName⟩ := of_get?_standard hModule
    refine ⟨?_, ?_, ?_⟩
    · intro c missing hMissing
      have hOpen : c.openSession (d.request largeFile) = .error (.headerNotFound missing) :=
        c.openSession_of_missing hMissing
      rw [evaluate_of_checked hModule hValid, hOpen]
      rfl
    · intro service err hErr
      rw [evaluate_of_checked hModule hValid] at hErr
      have hSession : FailsWithin (Arises m.name)
          ((service (d.request largeFile)).mapError ExtractionError.query) :=
        failsWithin_mapError .query
      have hRows (s : Session) : FailsWithin (Arises m.name) (m.evaluate s d) :=
        ExtractionModule.failsWithin_evaluate hBuiltin hValid
      have hArises := failsWithin_bind hSession (fun s _ => hRows s) err hErr
      rw [hName] at hArises
      exact ⟨hArises.not_refusal, hArises⟩
    · intro service emission hOk
      rw [evaluate_of_checked hModule hValid] at hOk
      obtain ⟨s, -, hRows⟩ := ok_of_bind hOk
      rw [← hName]
      exact ⟨fun hSole => ExtractionModule.length_rows_le_one hBuiltin hSole hRows,
        fun hOne => ExtractionModule.length_rows_eq_one hBuiltin hOne hRows⟩

/-- An opaque type whose second header is missing, and one that is asked for as a literal. -/
theorem evaluate_validated_opaque :
    let pid : Decl := Decl.typedef "pid_t"
    let c : Catalog :=
      { dump := ({ target := "x86_64-unknown-linux-gnu" } : Dump).addHeader "t.h" [pid] }
    let d : Directive :=
      { moduleName := "opaque"
        headers := ["t.h", "gone.h"]
        options := { patterns := (NamePattern.ofSource? "pid_t").toList } }
    let literal : Directive := { d with options := { d.options with quote := true } }
    standard.evaluate c.openSession [] d = .error (.query (.headerNotFound "gone.h")) ∧
      (∀ service err, standard.evaluate service [] d = .error err → Arises "opaque" err) ∧
      ∀ service, standard.evaluate service [] literal =
        .error (.invalid (.flagRejected "opaque" "-Q")) := by
  intro pid c d literal
  have hModule : standard.get? d.moduleName = some .opaqueType :=
    get?_standard_of_mem (m := .opaqueType) (by simp [ExtractionModule.builtins])
  have hValid : ExtractionModule.opaqueType.validate d = .ok () := by decide +kernel
  have hRefused : ExtractionModule.opaqueType.validate literal =
      .error (.invalid (.flagRejected "opaque" "-Q")) := by decide +kernel
  have hMissing : d.headers.find? (fun header => (c.resolve? header).isNone) = some "gone.h" := by
    decide +kernel
  obtain ⟨-, -, hPassed⟩ := evaluate_validated [] d
  obtain ⟨hNotFound, hArises, -⟩ := hPassed _ hModule hValid
  obtain ⟨-, hInvalid, -⟩ := evaluate_validated [] literal
  exact ⟨hNotFound c "gone.h" hMissing, fun service err hErr => (hArises service err hErr).2,
    (hInvalid _ _ hModule hRefused).2⟩

end Registry

end HeaderFacts

import HeaderFacts.Proofs.Evaluation
import HeaderFacts.Proofs.Traversal
import Mathlib.Data.List.Basic

/-!
# Exactly one declaration

Four modules take a fact from the only definition that a directive is about. What they make of a
directive depends on the list of the declarations it selects, in traversal order: nothing of an
empty list, a row of a single declaration, and an error of more than one. The error is that of the
first fact, if that cannot be taken, and otherwise it names the first two declarations.

Main definitions:

* `Catalog.selected` — the definitions that a directive is about.
* `soleMatch` — the match that a list of candidates leaves.
* `SoleModule` — the modules that take a fact from the only definition.

Main results:

* `foldlM_takeSole` — taking the only candidate, candidate by candidate.
* `SoleModule.evaluate_eq_emitOne` — a valid directive is the emission of one fact.
* `SoleModule.evaluate_selected` — the emission of a directive whose headers can all be found.
-/

namespace HeaderFacts

/-! ## The only candidate -/

/-- The match that a list of candidates leaves: none of no candidate, and never one of several. -/
def soleMatch (fact : Decl → Except ExtractionError String) :
    List Decl → Except ExtractionError (Option Matched)
  | [] => .ok none
  | [d] => do return some ⟨d.name, ← fact d⟩
  | d :: other :: _ => do
    -- The fact of the first is taken before the second is seen.
    let _ ← fact d
    throw (.multipleMatches d.name other.name)

section Fold

variable {fact : Decl → Except ExtractionError String}

/-- Once there is a match, the next candidate is an error, whatever comes after it. -/
theorem foldlM_takeSole_some (first : Matched) (d : Decl) (rest : List Decl) :
    (d :: rest).foldlM (takeSole fact) (some first) =
      .error (.multipleMatches first.name d.name) := by
  rw [List.foldlM_cons]
  rfl

/-- Taking the only candidate, candidate by candidate. -/
theorem foldlM_takeSole (candidates : List Decl) :
    candidates.foldlM (takeSole fact) none = soleMatch fact candidates := by
  match candidates with
  | [] => rfl
  | d :: rest =>
    rw [List.foldlM_cons, takeSole]
    cases h : fact d with
    | error err =>
      -- the first fact fails alike whether or not there is a second candidate
      cases rest <;> (simp only [soleMatch, h]; rfl)
    | ok text =>
      cases rest with
      | nil => simp [soleMatch, h]
      | cons other rest =>
        have hOther : (other :: rest).foldlM (takeSole fact) (some ⟨d.name, text⟩) =
            .error (.multipleMatches d.name other.name) :=
          foldlM_takeSole_some ⟨d.name, text⟩ other rest
        simp only [soleMatch, h]
        exact hOther

/-- The only declaration of a session that a directive is about. -/
theorem Session.exactlyOne_eq (s : Session) (rules : MatchRules) (o : Options) :
    s.exactlyOne rules o fact = soleMatch fact (s.decls.filter (rules.accepts o)) := by
  rw [Session.exactlyOne, Session.gather_eq_foldlM, foldlM_takeSole]

end Fold

/-! ## The modules -/

/-- The definitions that a directive is about: the visible ones of its headers, in traversal order,
that pass its filters. -/
def Catalog.selected (c : Catalog) (largeFile : List Define) (kinds : List NodeKind)
    (d : Directive) : List Decl :=
  (c.declarations d.headers).filter fun decl =>
    (d.request largeFile).shows decl && decl.definition && d.options.accepts kinds decl

/-- What a module for definitions takes up of the session of a directive. -/
theorem Catalog.filter_definitions (c : Catalog) (largeFile : List Define) (kinds : List NodeKind)
    (d : Directive) :
    (c.session largeFile d).decls.filter ((ExtractionModule.definitionsOf kinds).accepts d.options) =
      c.selected largeFile kinds d := by
  rw [Catalog.session, List.filter_filter, Catalog.selected]
  apply List.filter_congr
  intro decl _
  simp only [ExtractionModule.definitionsOf, MatchRules.accepts, Bool.not_true, Bool.false_or]
  rw [Bool.and_comm, Bool.and_assoc]

/-- The modules that take a fact from the only definition that a directive is about. -/
inductive SoleModule where
  | sizeOf
  | property
  | structTokens
  | opaqueType
  deriving DecidableEq, Repr

namespace SoleModule

open ExtractionModule (requestedProperty renderProperty renderOpaque emitOne)

/-- The module itself. -/
def toModule : SoleModule → ExtractionModule
  | sizeOf => .sizeOf
  | property => .property
  | structTokens => .structTokens
  | opaqueType => .opaqueType

/-- The fact that a directive takes from a declaration. -/
def fact (d : Directive) (decl : Decl) : SoleModule → Except ExtractionError String
  | sizeOf => renderProperty .size decl
  | property => do renderProperty (← requestedProperty "property" d) decl
  | structTokens => .ok (renderTokens .spaced decl.tokens)
  | opaqueType => renderOpaque d.options decl

theorem mem_builtins (sole : SoleModule) : sole.toModule ∈ ExtractionModule.builtins := by
  cases sole <;> simp [toModule, ExtractionModule.builtins]

/-- A valid directive is the emission of one fact. -/
theorem evaluate_eq_emitOne {sole : SoleModule} {d : Directive}
    (hValid : sole.toModule.validate d = .ok ()) (s : Session) :
    sole.toModule.evaluate s d = emitOne sole.toModule.defaultKinds (sole.fact d) s d := by
  cases sole with
  | sizeOf => rfl
  | property =>
    cases hAsked : requestedProperty "property" d with
    | error err =>
      -- without `-a` the directive is refused
      simp only [toModule, ExtractionModule.property, hAsked] at hValid
      cases hValid
    | ok p =>
      simp only [toModule, ExtractionModule.property, fact, hAsked]
      rfl
  | structTokens => rfl
  | opaqueType => rfl

/-- The emission of a directive whose headers can all be found. -/
theorem evaluate_eq_soleMatch {sole : SoleModule} {c : Catalog} {largeFile : List Define}
    {d : Directive} (hName : d.moduleName = sole.toModule.name)
    (hValid : sole.toModule.validate d = .ok ())
    (hResolved : ∀ header ∈ d.headers, (c.resolve? header).isSome) :
    Registry.standard.evaluate c.openSession largeFile d =
      (soleMatch (sole.fact d) (c.selected largeFile sole.toModule.defaultKinds d)).map
        (Emission.ofMatch d.options) := by
  rw [Registry.evaluate_builtin sole.mem_builtins hName hValid hResolved, evaluate_eq_emitOne hValid,
    emitOne, Session.exactlyOne_eq, c.filter_definitions]
  rfl

/-- **Exactly one declaration.** Of a directive whose module has checked it and whose headers can
all be found, no selected definition makes no row, one makes the row of its fact, and more than one
never make a row. -/
theorem evaluate_selected {sole : SoleModule} {c : Catalog} {largeFile : List Define}
    {d : Directive} (hName : d.moduleName = sole.toModule.name)
    (hValid : sole.toModule.validate d = .ok ())
    (hResolved : ∀ header ∈ d.headers, (c.resolve? header).isSome) :
    let selected := c.selected largeFile sole.toModule.defaultKinds d
    let result := Registry.standard.evaluate c.openSession largeFile d
    (selected = [] → result = .ok { rows := [], composite := d.options.composite }) ∧
    (∀ x, selected = [x] →
      (∀ err, sole.fact d x = .error err → result = .error err) ∧
      ∀ text, sole.fact d x = .ok text →
        let row := if d.options.composite then "[" ++ d.options.formatName x.name ++ "]=" ++ text
          else text
        result = .ok { rows := [row], composite := d.options.composite }) ∧
    (∀ x y rest, selected = x :: y :: rest →
      (∀ err, sole.fact d x = .error err → result = .error err) ∧
      ∀ text, sole.fact d x = .ok text →
        result = .error (.multipleMatches x.name y.name)) := by
  intro selected result
  have hResult : result =
      (soleMatch (sole.fact d) selected).map (Emission.ofMatch d.options) :=
    evaluate_eq_soleMatch hName hValid hResolved
  refine ⟨?_, ?_, ?_⟩
  · intro hNone
    rw [hResult, hNone]
    rfl
  · intro x hOne
    rw [hResult, hOne]
    constructor
    · intro err hFact
      simp only [soleMatch, hFact]
      rfl
    · intro text hFact row
      simp only [soleMatch, hFact]
      show Except.ok (Emission.ofMatch d.options (some ⟨x.name, text⟩)) = _
      cases hComposite : d.options.composite <;>
        simp [row, Emission.ofMatch, Emission.ofRows, Options.formatRow, hComposite]
  · intro x y rest hSeveral
    rw [hResult, hSeveral]
    constructor
    · intro err hFact
      simp only [soleMatch, hFact]
      rfl
    · intro text hFact
      simp only [soleMatch, hFact]
      rfl

/-- Two spellings of one header, a forward declaration and a hidden one before two definitions. -/
theorem evaluate_selected_ambiguous :
    let pid : Decl := Decl.typedef "pid_t"
    let decls : List Decl :=
      [pid.forward, (pid.withLayout 8 8).whenDefined "BIG" "1", pid.withLayout 4 4,
        (Decl.struct "pid_s").withLayout 16 8]
    let c : Catalog :=
      { dump := ({ target := "x86_64-unknown-linux-gnu" } : Dump).addHeader "inc/t.h" decls
        includePaths := ["inc"] }
    let d : Directive :=
      { moduleName := "sizeof"
        headers := ["t.h", "inc/t.h"]
        options := { patterns := (NamePattern.ofSource? "pid_.").toList } }
    d.moduleName = sizeOf.toModule.name ∧ sizeOf.toModule.validate d = .ok () ∧
      (∀ header ∈ d.headers, (c.resolve? header).isSome) ∧
      Registry.standard.evaluate c.openSession [] d =
        .error (.multipleMatches "pid_t" "pid_s") := by
  intro pid decls c d
  have hName : d.moduleName = sizeOf.toModule.name := rfl
  have hValid : sizeOf.toModule.validate d = .ok () := by decide +kernel
  have hResolved : ∀ header ∈ d.headers, (c.resolve? header).isSome := by decide +kernel
  have hSelected : c.selected [] sizeOf.toModule.defaultKinds d = decls.drop 2 := by
    decide +kernel
  have hFact : sizeOf.fact d (pid.withLayout 4 4) = .ok "4" := by decide +kernel
  obtain ⟨-, -, hSeveral⟩ := evaluate_selected hName hValid hResolved
  obtain ⟨-, hTwo⟩ := hSeveral _ _ [] hSelected
  exact ⟨hName, hValid, hResolved, hTwo "4" hFact⟩

end SoleModule

end HeaderFacts

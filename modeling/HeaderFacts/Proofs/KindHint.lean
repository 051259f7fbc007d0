import HeaderFacts.Proofs.Traversal

/-!
# The kind is only a hint

A module tells a session which kind it is looking for, if that is a single one. A session may hand
over the declarations of that kind alone, or ignore the hint and hand over all. Every accepted
declaration is of the hinted kind, and what is handed over is looked at all the same, so both take
up the same declarations, in the same order and with the same effects on the way.

Main definitions:

* `Traversal` — how a session hands declarations to a visitor, given a hint.
* `Session.ignoring` — the traversal that ignores the hint.
* `gatherVia`, `exactlyOneVia`, `enumerateAllVia`, `dialectVia` — what modules do over a traversal.

Main results:

* `gatherVia_visit` — the traversal of a session is one of them.
* `gatherVia_ignoring` — nothing changes where hints are ignored.
* `kindHint_optional` — neither for a sole match nor for a table nor for a dialect.
-/

namespace HeaderFacts

open ExtractionModule (definitionsOf requestedProperty dialectWith)

/-- How a session hands its declarations to a visitor, given the kind that is looked for. -/
abbrev Traversal (m : Type → Type) :=
  Option NodeKind → (Decl → m Visit) → m Unit

/-- The traversal of a session that ignores hints: all declarations are handed over. -/
def Session.ignoring {m : Type → Type} [Monad m] (s : Session) : Traversal m :=
  fun _ visitor => Session.visitAll visitor s.decls

section Modules

variable {m : Type → Type} [Monad m] {σ : Type}

/-- Takes up the declarations that a directive is about, as far as a traversal hands them over. -/
def gatherVia (visit : Traversal (StateT σ m)) (rules : MatchRules) (o : Options)
    (take : σ → Decl → m σ) (start : σ) : m σ := do
  let hint := o.kindHint rules.defaultKinds
  let (_, taken) ← (visit hint (rules.visitor o take)).run start
  return taken

/-- The fact of the only declaration that a directive is about. -/
def exactlyOneVia [MonadExceptOf ExtractionError m] (visit : Traversal (StateT (Option Matched) m))
    (rules : MatchRules) (o : Options) (render : Decl → m String) : m (Option Matched) :=
  gatherVia visit rules o (takeSole render) none

/-- One row for each declaration that a directive is about. -/
def enumerateAllVia (visit : Traversal (StateT (List String) m)) (rules : MatchRules) (o : Options)
    (render : Decl → m String) : m (List String) :=
  gatherVia visit rules o (fun rows d => do return rows ++ [← render d]) []

/-- The emission of the dialect module. -/
def dialectVia (visit : Traversal (StateT Slots (Except ExtractionError)))
    (selector : DialectSelector) (d : Directive) : Except ExtractionError Emission := do
  let p ← requestedProperty "dialect" d
  let rules := definitionsOf NodeKind.layoutKinds
  let slots ← gatherVia visit rules d.options (Slots.add d.options.patterns p) {}
  let resolution ← selector.resolve slots.candidates
  return Emission.ofRows d.options [toString resolution.value]

/-- The traversal of a session hands over the declarations of the hinted kind. -/
theorem gatherVia_visit (s : Session) (rules : MatchRules) (o : Options) (take : σ → Decl → m σ)
    (start : σ) : gatherVia s.visit rules o take start = s.gather rules o take start :=
  rfl

end Modules

section Lawful

variable {m : Type → Type} [Monad m] [LawfulMonad m] {σ : Type}

/-- Where hints are ignored, the same declarations are taken up. -/
theorem gatherVia_ignoring (s : Session) (rules : MatchRules) (o : Options) (take : σ → Decl → m σ)
    (start : σ) : gatherVia s.ignoring rules o take start = gatherVia s.visit rules o take start := by
  rw [gatherVia_visit, Session.gather_eq_foldlM, gatherVia, Session.ignoring]
  -- both are folds over the accepted declarations
  simp only [visitAll_visitor]
  simp

/-- **The kind is only a hint.** Whether a session hands over the declarations of the hinted kind or
all of them, a sole match, a table and a dialect come to the same. This holds for a function
`render` with any effects, such as failing or recording the declarations that it is handed. -/
theorem kindHint_optional [MonadExceptOf ExtractionError m] (s : Session) :
    (∀ (rules : MatchRules) (o : Options) (render : Decl → m String),
      s.exactlyOne rules o render = exactlyOneVia s.visit rules o render ∧
      exactlyOneVia s.ignoring rules o render = exactlyOneVia s.visit rules o render) ∧
    (∀ (rules : MatchRules) (o : Options) (render : Decl → m String),
      s.enumerateAll rules o render = enumerateAllVia s.visit rules o render ∧
      enumerateAllVia s.ignoring rules o render = enumerateAllVia s.visit rules o render) ∧
    ∀ (selector : DialectSelector) (d : Directive),
      (dialectWith selector).evaluate s d = dialectVia s.visit selector d ∧
      dialectVia s.ignoring selector d = dialectVia s.visit selector d := by
  refine ⟨?_, ?_, ?_⟩
  · intro rules o render
    exact ⟨rfl, gatherVia_ignoring s rules o (takeSole render) none⟩
  · intro rules o render
    exact ⟨rfl, gatherVia_ignoring s rules o _ []⟩
  · intro selector d
    refine ⟨rfl, ?_⟩
    simp only [dialectVia, gatherVia_ignoring]

end Lawful

/-- Two structs after a macro of their name, which only a session that ignores the hint hands over:
the first struct is rendered and no other declaration. -/
theorem kindHint_optional_recorded :
    let first : Decl := (Decl.struct "stat").withLayout 144 8
    let second : Decl := Decl.struct "stat"
    let s : Session :=
      { target := "x86_64-unknown-linux-gnu", decls := [Decl.macroOf "stat" ["stat"], first, second] }
    let rules : MatchRules := { defaultKinds := [.structDecl], definitionsOnly := true }
    let recorded (d : Decl) : ExceptT ExtractionError (StateM (List Decl)) String := do
      modify (· ++ [d])
      return d.name
    LawfulMonad (ExceptT ExtractionError (StateM (List Decl))) ∧
      (exactlyOneVia s.ignoring rules {} recorded).run.run [] =
        (.error (.multipleMatches "stat" "stat"), [first]) := by
  intro first second s rules recorded
  have hLawful : LawfulMonad (ExceptT ExtractionError (StateM (List Decl))) := inferInstance
  obtain ⟨hSole, -, -⟩ := kindHint_optional (m := ExceptT ExtractionError (StateM (List Decl))) s
  obtain ⟨-, hIgnoring⟩ := hSole rules {} recorded
  refine ⟨hLawful, ?_⟩
  rw [hIgnoring]
  rfl

end HeaderFacts

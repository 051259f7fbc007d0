import HeaderFacts.Dump.Session
import HeaderFacts.Module.Emission

/-!
# Selecting declarations

Which declarations of a session a directive is about, and how their facts are taken: from exactly
one, where a second match is an error and no match is an empty result, or from each.

Main definitions:

* `MatchRules` — which declarations a module considers.
* `Session.gather` — takes up the declarations that a directive selects.
* `Session.exactlyOne` — the fact of the only one.
* `Session.enumerateAll` — the rows of all of them.
-/

namespace HeaderFacts

/-- Which declarations a module considers. -/
structure MatchRules where
  /-- The kinds that are meant without `-w`. -/
  defaultKinds : List NodeKind
  /-- Whether forward declarations are passed over. -/
  definitionsOnly : Bool
  deriving DecidableEq, Repr

/-- Whether a directive is about a declaration. -/
def MatchRules.accepts (rules : MatchRules) (o : Options) (d : Decl) : Bool :=
  (!rules.definitionsOnly || d.definition) && o.accepts rules.defaultKinds d

/-- Takes up a declaration that a directive is about and passes over any other; the state is what
has been taken so far. -/
def MatchRules.visitor {m : Type → Type} [Monad m] {σ : Type} (rules : MatchRules) (o : Options)
    (take : σ → Decl → m σ) (d : Decl) : StateT σ m Visit := do
  if rules.accepts o d then set (← take (← get) d)
  return .more

/-- Takes the fact of a declaration that must be the only one. -/
def takeSole {m : Type → Type} [Monad m] [MonadExceptOf ExtractionError m]
    (render : Decl → m String) : Option Matched → Decl → m (Option Matched)
  | some first, d => throw (.multipleMatches first.name d.name)
  | none, d => do return some ⟨d.name, ← render d⟩

namespace Session

/-- Takes up the declarations that a directive is about, in the order of the session. The kind is
only a hint, so what is handed over is looked at all the same. -/
def gather {m : Type → Type} [Monad m] {σ : Type} (s : Session) (rules : MatchRules) (o : Options)
    (take : σ → Decl → m σ) (start : σ) : m σ := do
  let hint := o.kindHint rules.defaultKinds
  let (_, taken) ← (s.visit hint (rules.visitor o take)).run start
  return taken

/-- The fact of the only declaration that a directive is about. All declarations are visited, so
that a second one is never missed. -/
def exactlyOne {m : Type → Type} [Monad m] [MonadExceptOf ExtractionError m] (s : Session)
    (rules : MatchRules) (o : Options) (render : Decl → m String) : m (Option Matched) :=
  s.gather rules o (takeSole render) none

/-- One row for each declaration that a directive is about. -/
def enumerateAll {m : Type → Type} [Monad m] (s : Session) (rules : MatchRules) (o : Options)
    (render : Decl → m String) : m (List String) :=
  s.gather rules o (fun rows d => do return rows ++ [← render d]) []

end Session

end HeaderFacts

import HeaderFacts.Module.Variant

/-!
# Traversals are folds

The visitor of a module never stops a traversal early, and the kind that it asks the session for is
one that every accepted declaration has. So neither the stopping nor the hint can be seen in what a
module takes up: it is a fold over the accepted declarations, in the order of the session.

Main results:

* `kind_of_accepts` — an accepted declaration has the hinted kind.
* `visitAll_visitor` — a visitor that never stops is a fold.
* `Session.gather_eq_foldlM` — what a module takes up, as a fold.
-/

namespace HeaderFacts

/-! ## The hint -/

/-- Every accepted declaration has the hinted kind. -/
theorem Options.kind_of_accepts {o : Options} {kinds : List NodeKind} {d : Decl}
    (h : o.accepts kinds d = true) : (o.kindHint kinds).all (d.kind == ·) = true := by
  have hKind : o.acceptsKind kinds d.kind = true := by
    rw [Options.accepts, Bool.and_eq_true, Bool.and_eq_true] at h
    exact h.1.1
  unfold Options.acceptsKind at hKind
  unfold Options.kindHint
  cases hAsked : o.kind with
  | some kind =>
    rw [hAsked] at hKind
    exact hKind
  | none =>
    rw [hAsked] at hKind
    match kinds, hKind with
    | [], _ => rfl
    | [only], hKind => simpa using hKind
    | _ :: _ :: _, _ => rfl

/-- The hint leaves out no accepted declaration. -/
theorem Session.filter_ofKind (s : Session) (rules : MatchRules) (o : Options) :
    (s.ofKind (o.kindHint rules.defaultKinds)).filter (rules.accepts o) =
      s.decls.filter (rules.accepts o) := by
  rw [Session.ofKind, List.filter_filter]
  apply List.filter_congr
  intro d _
  cases h : rules.accepts o d with
  | false => rfl
  | true =>
    rw [MatchRules.accepts, Bool.and_eq_true] at h
    rw [Options.kind_of_accepts h.2]
    rfl

/-! ## The visitor -/

section Visitor

variable {m : Type → Type} [Monad m] [LawfulMonad m] {σ : Type}
variable {rules : MatchRules} {o : Options} {take : σ → Decl → m σ}

/-- A visitor takes an accepted declaration up, passes over any other, and always goes on. -/
theorem MatchRules.visitor_run (d : Decl) (taken : σ) :
    (rules.visitor o take d).run taken =
      if rules.accepts o d then (Prod.mk Visit.more) <$> take taken d
      else pure (Visit.more, taken) := by
  rw [MatchRules.visitor]
  split <;> simp

/-- A visitor that never stops is a fold over what it takes up. -/
theorem visitAll_visitor (decls : List Decl) (start : σ) :
    (Session.visitAll (rules.visitor o take) decls).run start =
      (Prod.mk ()) <$> (decls.filter (rules.accepts o)).foldlM take start := by
  induction decls generalizing start with
  | nil => simp [Session.visitAll]
  | cons d rest ih =>
    rw [Session.visitAll, StateT.run_bind, MatchRules.visitor_run]
    cases h : rules.accepts o d with
    | false => simp [h, ih]
    | true => simp [h, ih]

/-- What a module takes up is a fold over the accepted declarations of the session. -/
theorem Session.gather_eq_foldlM (s : Session) (start : σ) :
    s.gather rules o take start = (s.decls.filter (rules.accepts o)).foldlM take start := by
  rw [Session.gather, Session.visit]
  simp only [visitAll_visitor, s.filter_ofKind]
  simp

end Visitor

end HeaderFacts

import HeaderFacts.Pattern.Reader

/-!
# Name patterns

A pattern for the names of declarations: a regular expression written between `^(?:` and `)$`, so
that an alternative of it covers a name from the first to the last character. The expression comes
with the pattern's text, from which it is determined, and two patterns are equal when their texts
are.

Which texts are regular expressions and what they match is up to an engine. Only two things are asked
of one: to compile a text, and to look for a match in another.

Main definitions:

* `RegexEngine` — an engine for regular expressions.
* `Pattern.engine` — the engine of this library.
* `NamePattern` — the text of a pattern together with its expression.
* `NamePattern.ofSource?` — the pattern of a text, if it is one.
* `NamePattern.isMatch` — whether a name matches.
-/

namespace HeaderFacts

/-- An engine for regular expressions. -/
structure RegexEngine where
  /-- The compiled expressions. -/
  Regex : Type
  compile? : List Char → Option Regex
  /-- Whether an expression matches a part of a text. -/
  occursIn : Regex → List Char → Bool

/-- Syntax trees, matched by marks. This engine knows no classes by Unicode property, and it only
estimates the room that a pattern would take. -/
def Pattern.engine : RegexEngine where
  Regex := Expr
  compile? := parse?
  occursIn := Expr.occursIn

/-- The text between the anchors that a name pattern adds. -/
def anchored (source : String) : List Char :=
  ['^', '(', '?', ':'] ++ source.toList ++ [')', '$']

/-- A pattern for names. -/
structure NamePattern (engine : RegexEngine := Pattern.engine) where
  source : String
  regex : engine.Regex
  compiled : engine.compile? (anchored source) = some regex

namespace NamePattern

/-- The pattern of a text. -/
def ofSource? (source : String) (engine : RegexEngine := Pattern.engine) :
    Option (NamePattern engine) :=
  match h : engine.compile? (anchored source) with
  | none => none
  | some regex => some ⟨source, regex, h⟩

variable {engine : RegexEngine}

/-- Whether a name matches. -/
def isMatch (p : NamePattern engine) (name : String) : Bool :=
  engine.occursIn p.regex name.toList

/-- Patterns with one text are one pattern. -/
@[ext] theorem ext {p q : NamePattern engine} (h : p.source = q.source) : p = q := by
  obtain ⟨s, r, hp⟩ := p
  obtain ⟨t, u, hq⟩ := q
  subst h
  have : some r = some u := hp.symm.trans hq
  cases this
  rfl

instance : DecidableEq (NamePattern engine) := fun p q =>
  decidable_of_iff (p.source = q.source) ⟨ext, fun h => h ▸ rfl⟩

instance : Repr (NamePattern engine) := ⟨fun p => reprPrec p.source⟩

/-- A text has a pattern exactly when the anchored text is a regular expression. -/
theorem ofSource?_eq_some_iff {source : String} {p : NamePattern engine} :
    ofSource? source engine = some p ↔ p.source = source := by
  constructor
  · intro h
    unfold ofSource? at h
    split at h
    · cases h
    · cases h; rfl
  · rintro rfl
    unfold ofSource?
    split
    · next h => rw [p.compiled] at h; cases h
    · next h => exact congrArg some (ext rfl)

end NamePattern

end HeaderFacts

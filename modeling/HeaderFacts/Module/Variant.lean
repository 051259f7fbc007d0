import HeaderFacts.Dialect
import HeaderFacts.Module.Layout

/-!
# The module for dialects

Takes a layout fact from a legacy type and from its large-file variant, and writes the one that the
dialect of the library calls for. The first pattern of the directive names the legacy type, the
second the variant.

Main definitions:

* `Slots` — what the search for the two types has found.
* `ExtractionModule.dialect` — the module.
-/

namespace HeaderFacts

/-- The name and fact of the legacy type and of its variant, as far as they have been found. -/
structure Slots where
  legacy : Option (String × Nat) := none
  largeFile : Option (String × Nat) := none
  deriving DecidableEq, Repr

namespace Slots

/-- The fact of a type for a slot that must still be free. -/
def fill (p : Property) (slot : Option (String × Nat)) (decl : Decl) :
    Except ExtractionError (Option (String × Nat)) :=
  match slot with
  | some (first, _) => .error (.multipleMatches first decl.name)
  | none => (decl.extract p).map fun fact => some (decl.name, fact)

/-- Puts a type into the slot of the first pattern that it matches. -/
def add (patterns : List NamePattern) (p : Property) (s : Slots) (decl : Decl) :
    Except ExtractionError Slots := do
  -- A type that matches both patterns belongs to the first.
  match patterns.findIdx? (·.isMatch decl.name) with
  | none => return s
  | some 0 => return { s with legacy := ← fill p s.legacy decl }
  | some _ => return { s with largeFile := ← fill p s.largeFile decl }

/-- The two facts. -/
def candidates (s : Slots) : Candidates :=
  { legacy := s.legacy.map Prod.snd, largeFile := s.largeFile.map Prod.snd }

end Slots

namespace ExtractionModule

/-- The fact that the dialect of the library calls for. -/
def dialectWith (selector : DialectSelector) : ExtractionModule where
  name := "dialect"
  description := "Layout fact resolved between a legacy type and its large-file variant"
  cardinality := .exactlyOne
  defaultKinds := NodeKind.layoutKinds
  validate d := do
    checkCommon "dialect" .exactlyOne d
    let _ ← requestedProperty "dialect" d
    if d.options.patterns.length ≠ 2 then
      throw (.invalid (.patternCount "dialect" d.options.patterns.length))
    rejectFlag "dialect" d.options.composite "-C"
  evaluate s d := do
    let p ← requestedProperty "dialect" d
    let rules := definitionsOf NodeKind.layoutKinds
    let slots ← s.gather rules d.options (Slots.add d.options.patterns p) {}
    let resolution ← selector.resolve slots.candidates
    return Emission.ofRows d.options [toString resolution.value]

/-- The module under the rules for glibc and musl. -/
def dialect : ExtractionModule :=
  dialectWith .standard

end ExtractionModule

end HeaderFacts

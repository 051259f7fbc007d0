import HeaderFacts.Text.Blank
import HeaderFacts.Text.Line
import HeaderFacts.Text.Search

/-!
# Markers of a template

The lines that start and end a directive block, the ending that continues a directive on the next
line, and the delimiters of regions that are never looked into.

Main definitions:

* `Markers` — the markers of a template.
* `Markers.opensInert?` — whether a line opens a region that it does not close.
* `Markers.continued?` — whether a directive goes on after a line.
-/

namespace HeaderFacts

/-- The delimiters of a region that is not looked into. -/
structure InertRegion where
  opening : String
  closing : String
  deriving DecidableEq, Repr

/-- The markers of a template. -/
structure Markers where
  blockStart : String := "@@extract"
  blockEnd : String := "@@end"
  continuation : String := "\\"
  inert : List InertRegion := [⟨"/*", "*/"⟩]
  deriving DecidableEq, Repr

namespace Markers

/-- The delimiter that a line waits for which begins with the opening one of a region. -/
def waitsFor? (line : List Char) (region : InertRegion) : Option (List Char) :=
  match Text.stripStart? region.opening.toList line with
  | none => none
  | some rest =>
    if Text.occursIn region.closing.toList rest then none else some region.closing.toList

/-- The closing delimiter of the first region that a line opens and does not close itself. -/
def opensInert? (m : Markers) (line : List Char) : Option (List Char) :=
  m.inert.findSome? (waitsFor? (Text.trimStart line))

/-- What a trimmed line contributes to a directive that goes on after it. An empty marker continues
nothing. -/
def continued? (m : Markers) (line : List Char) : Option (List Char) :=
  if m.continuation.isEmpty then none
  else (Text.stripEnd? m.continuation.toList line).map Text.trimEnd

end Markers

end HeaderFacts

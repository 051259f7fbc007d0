import HeaderFacts.Row

/-!
# Emissions

The rows that one directive contributes to a block.

Main definitions:

* `Emission` — rows, and whether they are cells to be joined by commas.
* `Matched` — the fact of the single declaration that a directive selects.
* `Emission.ofMatch` — the row of such a fact, or no row.
-/

namespace HeaderFacts

/-- The rows of one directive. -/
structure Emission where
  rows : List String := []
  /-- The rows are cells, joined by commas with neighbouring cells of their block. -/
  composite : Bool := false
  deriving DecidableEq, Repr

/-- The fact of the single declaration that a directive selects. -/
structure Matched where
  name : String
  fact : String
  deriving DecidableEq, Repr

namespace Emission

/-- Rows written under the options of a directive. -/
def ofRows (o : Options) (rows : List String) : Emission :=
  { rows, composite := o.composite }

/-- The row of a match: a cell in composite mode, and otherwise the bare fact. -/
def ofMatch (o : Options) (matched : Option Matched) : Emission :=
  ofRows o <|
    match matched with
    | none => []
    | some m => [if o.composite then o.formatRow m.name m.fact else m.fact]

/-- Whether there are no rows. -/
def isEmpty (e : Emission) : Bool :=
  e.rows.isEmpty

end Emission

end HeaderFacts

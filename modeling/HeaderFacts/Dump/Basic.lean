import HeaderFacts.Decl.Basic

/-!
# Declaration dumps

Everything a frontend reported for a set of headers: the target triple it parsed for, and for each
header the declarations in source order.

Main definitions:

* `Dump` — a dump.
* `Dump.addHeader` — a dump with more declarations for a header.
-/

namespace HeaderFacts

/-- Everything a frontend reported for a set of headers. -/
structure Dump where
  target : String
  headers : KeyMap (List Decl) := .empty
  deriving DecidableEq, Repr

/-- Appends declarations to those of a header, which is new if it had none. -/
def Dump.addHeader (d : Dump) (path : String) (decls : List Decl) : Dump :=
  { d with headers := d.headers.modify path fun old => old.getD [] ++ decls }

end HeaderFacts

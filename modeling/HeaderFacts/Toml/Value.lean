/-!
# TOML values

The values of TOML. A table remembers how it came about, since that decides what a document may
still add to it: a header that names it, a header that only passes through it, a dotted key, or
braces, which close it for good.

Main definitions:

* `Toml` — a value.
* `TableOrigin` — how a table came about.
-/

namespace HeaderFacts

/-- How a table came about. -/
inductive TableOrigin where
  /-- Named by a header. -/
  | header
  /-- Passed through by a header that names a table inside. -/
  | implied
  /-- Passed through by a dotted key. -/
  | dotted
  /-- Written between braces. -/
  | inline
  deriving DecidableEq, Repr

/-- A TOML value. -/
inductive Toml where
  | string (s : String)
  | integer (n : Int64)
  /-- A number with a fraction or exponent, or one that is none, by its text. -/
  | float (text : String)
  | bool (b : Bool)
  /-- A date, a time or both, by its text. -/
  | datetime (text : String)
  | array (items : List Toml)
  /-- An array whose elements are headed by double brackets. -/
  | tables (items : List Toml)
  | table (origin : TableOrigin) (entries : List (String × Toml))
  deriving Repr, Inhabited

end HeaderFacts

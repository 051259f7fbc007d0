import HeaderFacts.Directive.Basic

/-!
# Requests

What a directive asks a frontend for: the declarations of its headers under its definitions.

Main definitions:

* `Request` — headers and definitions.
* `Request.define?` — the value of a macro; the last definition counts.
* `Request.shows` — whether a declaration is visible.
* `Directive.request` — the request of a directive.
-/

namespace HeaderFacts

/-- Headers to be parsed under preprocessor definitions. -/
structure Request where
  headers : List String
  defines : List Define := []
  deriving DecidableEq, Repr

/-- The value of a macro, by its last definition. -/
def Request.define? (r : Request) (name : String) : Option String :=
  (r.defines.reverse.find? (·.1 = name)).map Prod.snd

/-- Whether all definitions that a declaration needs are as it needs them. -/
def Request.shows (r : Request) (d : Decl) : Bool :=
  d.when.entries.all fun (name, value) => r.define? name == some value

/-- The request of a directive; `-A` adds the large-file definitions after its own. -/
def Directive.request (d : Directive) (largeFile : List Define) : Request :=
  { headers := d.headers
    defines := if d.options.largeFile then d.defines ++ largeFile else d.defines }

end HeaderFacts

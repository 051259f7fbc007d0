import HeaderFacts.Module.Selection

/-!
# Extraction modules

A directive names a module, which says how many declarations it expects, which kinds it considers,
what it requires of a directive and how it makes rows of a session.

Main definitions:

* `Cardinality` — how many declarations a module expects.
* `ExtractionModule` — a module.
* `checkCommon`, `rejectFlag` — requirements that modules share.
-/

namespace HeaderFacts

/-- How many declarations a module expects. -/
inductive Cardinality where
  | exactlyOne
  | enumerateAll
  /-- The module does not look at declarations. -/
  | noDeclarations
  deriving DecidableEq, Repr

/-- A way to make rows of declarations. -/
structure ExtractionModule where
  /-- The word that names the module in directives. -/
  name : String
  description : String
  cardinality : Cardinality
  /-- The kinds that are meant without `-w`; all kinds if there are none. -/
  defaultKinds : List NodeKind
  /-- What the module requires of a directive, before any declaration is looked at. -/
  validate : Directive → Except ExtractionError Unit
  evaluate : Session → Directive → Except ExtractionError Emission

/-- Requirements of every module: one that expects a single declaration needs a name pattern, and
none takes positional arguments. -/
def checkCommon (name : String) (cardinality : Cardinality) (d : Directive) :
    Except ExtractionError Unit :=
  if cardinality = .exactlyOne ∧ d.options.patterns = [] then
    .error (.malformed (.patternRequired name))
  else if d.userArgs ≠ [] then .error (.malformed (.positional name d.userArgs.length))
  else .ok ()

/-- Refuses a flag that a module has no use for. -/
def rejectFlag (name : String) (given : Bool) (flag : String) : Except ExtractionError Unit :=
  if given then .error (.invalid (.flagRejected name flag)) else .ok ()

end HeaderFacts

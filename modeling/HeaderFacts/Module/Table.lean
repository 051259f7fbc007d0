import HeaderFacts.Fact
import HeaderFacts.Fingerprint
import HeaderFacts.Module.Basic

/-!
# Modules for tables and for the platform

The modules that write one row for each declaration they match, and the one that writes the platform
of the session without looking at declarations.

Main definitions:

* `ExtractionModule.macroTable`, `ExtractionModule.enumTable`, `ExtractionModule.fingerprint` — the
  built-in modules.
* `ExtractionModule.targetTriple` — the simplest module, under any name.
-/

namespace HeaderFacts.ExtractionModule

/-- The emission of a row for each declaration that a directive is about. -/
def emitAll (kinds : List NodeKind) (value : Decl → Except ExtractionError String) (s : Session)
    (d : Directive) : Except ExtractionError Emission := do
  let rules : MatchRules := { defaultKinds := kinds, definitionsOnly := false }
  let rows ← s.enumerateAll rules d.options fun decl => do
    return d.options.formatRow decl.name (← value decl)
  return Emission.ofRows d.options rows

/-- Macros and their bodies. -/
def macroTable : ExtractionModule where
  name := "macro"
  description := "Table of macro names and their bodies"
  cardinality := .enumerateAll
  defaultKinds := [.macroDefinition]
  validate d := do
    checkCommon "macro" .enumerateAll d
    rejectFlag "macro" d.options.property.isSome "-a"
    rejectFlag "macro" d.options.enumType.isSome "-e"
  evaluate := emitAll [.macroDefinition] fun decl => .ok (renderTokens .compact decl.tokens)

/-- The value of an enum constant: its source tokens, or the number the frontend evaluated. -/
def enumValue (o : Options) (decl : Decl) : Except ExtractionError String :=
  if o.rawTokens then .ok decl.rawValue
  else
    match decl.value with
    | some value => .ok (toString value.toInt)
    | none => .error (.query (.property "value" decl.name))

/-- Enum constants and their values. -/
def enumTable : ExtractionModule where
  name := "enum"
  description := "Table of enum constants and their values"
  cardinality := .enumerateAll
  defaultKinds := [.enumConstantDecl]
  validate d := do
    checkCommon "enum" .enumerateAll d
    rejectFlag "enum" d.options.property.isSome "-a"
  evaluate s d := emitAll [.enumConstantDecl] (enumValue d.options) s d

/-- The platform of the session. -/
def fingerprint : ExtractionModule where
  name := "fingerprint"
  description := "Platform fingerprint (os-arch) of the parsing target"
  cardinality := .noDeclarations
  defaultKinds := []
  validate d := do
    checkCommon "fingerprint" .noDeclarations d
    rejectFlag "fingerprint" (!d.options.patterns.isEmpty) "-p"
    rejectFlag "fingerprint" d.options.composite "-C"
    rejectFlag "fingerprint" d.options.property.isSome "-a"
  evaluate s d := do
    let platform ← (Fingerprint.ofTriple s.target).mapError ExtractionError.query
    let row := if d.options.quote then quoted platform.text else platform.text
    return Emission.ofRows d.options [row]

/-- A module of a given name that writes the target triple of the session. -/
def targetTriple (name : String) (cardinality : Cardinality) : ExtractionModule where
  name := name
  description := ""
  cardinality := cardinality
  defaultKinds := []
  validate := checkCommon name cardinality
  evaluate s d := .ok (Emission.ofRows d.options [s.target])

end HeaderFacts.ExtractionModule

import HeaderFacts.Fact
import HeaderFacts.Module.Basic

/-!
# Modules for a single declaration

The modules that take one fact from the only declaration they match: a byte size, a layout property,
the tokens of a struct, or an opaque type of the same layout.

Main definitions:

* `ExtractionModule.sizeOf`, `ExtractionModule.property`, `ExtractionModule.structTokens`,
  `ExtractionModule.opaqueType` — the modules.
-/

namespace HeaderFacts.ExtractionModule

/-- The rules of a module that looks at definitions of some kinds. -/
def definitionsOf (kinds : List NodeKind) : MatchRules :=
  { defaultKinds := kinds, definitionsOnly := true }

/-- The emission of the only definition that a directive is about. -/
def emitOne (kinds : List NodeKind) (render : Decl → Except ExtractionError String) (s : Session)
    (d : Directive) : Except ExtractionError Emission := do
  return Emission.ofMatch d.options (← s.exactlyOne (definitionsOf kinds) d.options render)

/-- The decimal text of a layout fact. -/
def renderProperty (p : Property) (decl : Decl) : Except ExtractionError String :=
  (decl.extract p).map toString

/-- The byte size of a type. -/
def sizeOf : ExtractionModule where
  name := "sizeof"
  description := "Byte size of a single struct, union or typedef"
  cardinality := .exactlyOne
  defaultKinds := NodeKind.layoutKinds
  validate d := do
    checkCommon "sizeof" .exactlyOne d
    rejectFlag "sizeof" d.options.property.isSome "-a (use 'property')"
  evaluate := emitOne NodeKind.layoutKinds (renderProperty .size)

/-- The property that a directive asks for; a directive without one is refused before this. -/
def requestedProperty (name : String) (d : Directive) : Except ExtractionError Property :=
  match d.options.property with
  | some p => .ok p
  | none => .error (.malformed (.propertyRequired name))

/-- The layout property that `-a` asks for. -/
def property : ExtractionModule where
  name := "property"
  description := "Size, alignment or member offset of a single declaration"
  cardinality := .exactlyOne
  defaultKinds := NodeKind.layoutKinds
  validate d := do
    let _ ← requestedProperty "property" d
    checkCommon "property" .exactlyOne d
  evaluate s d := do
    let p ← requestedProperty "property" d
    emitOne NodeKind.layoutKinds (renderProperty p) s d

/-- The source tokens of a struct or union. -/
def structTokens : ExtractionModule where
  name := "struct"
  description := "Source tokens of a single struct or union definition"
  cardinality := .exactlyOne
  defaultKinds := [.structDecl, .unionDecl]
  validate d := do
    checkCommon "struct" .exactlyOne d
    rejectFlag "struct" d.options.composite "-C"
    rejectFlag "struct" d.options.property.isSome "-a"
  evaluate := emitOne [.structDecl, .unionDecl] fun decl => .ok (renderTokens .spaced decl.tokens)

/-- The opaque type of the layout of a declaration. -/
def renderOpaque (o : Options) (decl : Decl) : Except ExtractionError String := do
  let size ← decl.extract .size
  let alignment ← decl.extract .alignment
  opaqueSurrogate (o.formatName decl.name) size alignment

/-- An opaque type of the same layout. -/
def opaqueType : ExtractionModule where
  name := "opaque"
  description := "Opaque struct matching the size and alignment of a single type"
  cardinality := .exactlyOne
  defaultKinds := NodeKind.layoutKinds
  validate d := do
    checkCommon "opaque" .exactlyOne d
    rejectFlag "opaque" d.options.composite "-C"
    rejectFlag "opaque" d.options.quote "-Q"
    rejectFlag "opaque" d.options.property.isSome "-a"
  evaluate s d := emitOne NodeKind.layoutKinds (renderOpaque d.options) s d

end HeaderFacts.ExtractionModule

import HeaderFacts.Directive.Options

/-!
# Facts of declarations

The numbers and texts that directives take from declarations: layout facts, token spans and opaque
types of the same layout.

Main definitions:

* `Decl.extract` — a layout fact, or the error that the frontend could not answer.
* `renderTokens`, `Decl.rawValue` — the source tokens after the leading one.
* `elementType` — the unsigned type of a width.
* `opaqueSurrogate` — a type of a given size and alignment.
-/

namespace HeaderFacts

/-! ## Layout -/

/-- The number that a layout records for a property. -/
def Layout.record (l : Layout) : Property → Int64
  | .size => l.size
  | .alignment => l.align
  | .offset member => l.offsetOf member

/-- A layout fact of a declaration. Without a layout, and for a negative number, there is none. -/
def Decl.extract (d : Decl) (p : Property) : Except ExtractionError Nat :=
  match d.layout with
  | none => .error (.query (.property p.label d.name))
  | some l =>
    let number := (l.record p).toInt
    if number < 0 then .error (.query (.property p.label d.name)) else .ok number.toNat

/-! ## Tokens -/

/-- How the tokens of a span are joined. -/
inductive TokenJoin where
  | compact
  | spaced
  deriving DecidableEq, Repr

/-- The tokens of a span after the leading one, joined. -/
def renderTokens (join : TokenJoin) (tokens : List String) : String :=
  match join with
  | .compact => String.join (tokens.drop 1)
  | .spaced => String.intercalate " " (tokens.drop 1)

/-- The source text of a value. An enum constant also leaves out the `=` after its name. -/
def Decl.rawValue (d : Decl) : String :=
  if d.kind = .enumConstantDecl ∧ d.tokens[1]? = some "=" then
    renderTokens .compact (d.tokens.drop 1)
  else renderTokens .compact d.tokens

/-! ## Opaque types -/

/-- The unsigned type as wide as an alignment. -/
def elementType (alignment : Nat) : Except ExtractionError String :=
  match alignment with
  | 1 => .ok "u8"
  | 2 => .ok "u16"
  | 4 => .ok "u32"
  | 8 => .ok "u64"
  | other => .error (.unsupportedAlignment other)

/-- A type with a given size and alignment and no visible members. -/
def opaqueSurrogate (name : String) (size alignment : Nat) : Except ExtractionError String := do
  let element ← elementType alignment
  if size % alignment ≠ 0 then throw (.unsupportedSize size alignment)
  return "#[repr(C)]\npub struct " ++ name ++ " \x7b\n    _opaque: [" ++ element ++ "; " ++
    toString (size / alignment) ++ "],\n\x7d"

end HeaderFacts

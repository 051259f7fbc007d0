import HeaderFacts.Decl.Kind
import HeaderFacts.KeyMap

/-!
# Declarations

What a frontend reports about one declaration of a header: its kind and name, whether it defines
what it declares, the layout of its type, its value, its source tokens, and the preprocessor
definitions under which it is there at all. Layout numbers and values are 64-bit words, and a
negative layout number is a question that the frontend could not answer.

Main definitions:

* `Decl`, `Layout`, `Field` — a declaration and the layout of its type.
* `Layout.offsetOf` — the offset of a member.
* `Decl.enclosingEnum?` — the enum that a constant belongs to.
* `Decl.withLayout`, `Decl.withField`, … — declarations put together step by step.
-/

namespace HeaderFacts

/-- A member of a type and its offset. -/
structure Field where
  name : String
  offset : Int64
  deriving DecidableEq, Repr, Inhabited

/-- The layout of a type, in bytes. -/
structure Layout where
  size : Int64
  align : Int64
  fields : List Field := []
  deriving DecidableEq, Repr, Inhabited

/-- The offset of the first member of a name; `-1` if there is none. -/
def Layout.offsetOf (l : Layout) (member : String) : Int64 :=
  match l.fields.find? (·.name = member) with
  | some field => field.offset
  | none => -1

/-- One declaration of a header. -/
structure Decl where
  kind : NodeKind
  name : String
  definition : Bool := true
  enumName : Option String := none
  value : Option Int64 := none
  layout : Option Layout := none
  tokens : List String := []
  /-- The definitions under which the declaration is visible. -/
  when : KeyMap String := .empty
  deriving DecidableEq, Repr, Inhabited

namespace Decl

/-- The enum that a constant belongs to; an empty name means an anonymous enum. -/
def enclosingEnum? (d : Decl) : Option String :=
  match d.enumName with
  | some name => if name.isEmpty then none else some name
  | none => none

/-! ## Building declarations -/

/-- A struct. -/
def struct (name : String) : Decl := { kind := .structDecl, name }

/-- A typedef. -/
def typedef (name : String) : Decl := { kind := .typedefDecl, name }

/-- A macro with its source tokens. -/
def macroOf (name : String) (tokens : List String) : Decl :=
  { kind := .macroDefinition, name, tokens }

/-- An enum constant. -/
def enumConstant (name : String) (value : Int64) : Decl :=
  { kind := .enumConstantDecl, name, value := some value }

/-- Gives the declared type a layout without members. -/
def withLayout (d : Decl) (size align : Int64) : Decl :=
  { d with layout := some { size, align } }

/-- Adds a member; a type without a layout has no place for it. -/
def withField (d : Decl) (name : String) (offset : Int64) : Decl :=
  { d with layout := d.layout.map fun l => { l with fields := l.fields ++ [{ name, offset }] } }

/-- Gives the declaration its source tokens. -/
def withTokens (d : Decl) (tokens : List String) : Decl :=
  { d with tokens }

/-- Makes the declaration a constant of an enum. -/
def inEnum (d : Decl) (name : String) : Decl :=
  { d with enumName := some name }

/-- Makes the declaration a forward one. -/
def forward (d : Decl) : Decl :=
  { d with definition := false }

/-- Makes the declaration visible only where `name` is defined to `value`. -/
def whenDefined (d : Decl) (name value : String) : Decl :=
  { d with when := d.when.insert name value }

end Decl

end HeaderFacts

/-!
# Kinds of declarations

The kinds of nodes that a frontend reports for a header, and the words that name them in directives
and dumps.

Main definitions:

* `NodeKind` — the kinds.
* `NodeKind.text`, `NodeKind.ofText?` — their names, written and read.

Main results:

* `NodeKind.ofText?_eq_some_iff` — a text names a kind exactly when it is the kind's name.
-/

namespace HeaderFacts

/-- The kind of a declaration. -/
inductive NodeKind where
  | macroDefinition
  | structDecl
  | unionDecl
  | typedefDecl
  | enumDecl
  | enumConstantDecl
  | functionDecl
  | varDecl
  deriving DecidableEq, Repr, Inhabited

namespace NodeKind

/-- All kinds. -/
def all : List NodeKind :=
  [macroDefinition, structDecl, unionDecl, typedefDecl, enumDecl, enumConstantDecl, functionDecl,
    varDecl]

/-- The name of a kind. -/
def text : NodeKind → String
  | macroDefinition => "MacroDefinition"
  | structDecl => "StructDecl"
  | unionDecl => "UnionDecl"
  | typedefDecl => "TypedefDecl"
  | enumDecl => "EnumDecl"
  | enumConstantDecl => "EnumConstantDecl"
  | functionDecl => "FunctionDecl"
  | varDecl => "VarDecl"

/-- The kind that a text names. -/
def ofText? (text : String) : Option NodeKind :=
  all.find? fun kind => kind.text = text

/-- A text names a kind exactly when it is the kind's name. -/
theorem ofText?_eq_some_iff {text : String} {kind : NodeKind} :
    ofText? text = some kind ↔ text = kind.text := by
  constructor
  · intro h
    have := List.find?_some h
    exact (of_decide_eq_true this).symm
  · rintro rfl
    cases kind <;> rfl

/-- The kinds of types, which have a layout. -/
def layoutKinds : List NodeKind := [structDecl, unionDecl, typedefDecl]

end NodeKind

end HeaderFacts

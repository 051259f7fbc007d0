import HeaderFacts.Decl.Basic
import HeaderFacts.Directive.Arg
import HeaderFacts.Directive.Define
import HeaderFacts.Directive.Property
import HeaderFacts.Pattern.NamePattern

/-!
# Options of a directive

What the flags of a directive say: which declarations it is about, which fact of them it wants and
how the fact is written.

Main definitions:

* `NamePattern.ofSource` — the pattern of a text, or the error that there is none.
* `Options` — the flags of a directive.
* `Options.accepts` — whether a declaration passes the filters.
* `Options.kindHint` — a kind that every accepted declaration has.
-/

namespace HeaderFacts

/-- The pattern of a text. -/
def NamePattern.ofSource (source : String) : Except ExtractionError NamePattern :=
  match ofSource? source with
  | none => .error (.invalid (.badPattern source))
  | some pattern => .ok pattern

/-- The flags of a directive. -/
structure Options where
  /-- `-w`: the kind of the declarations. -/
  kind : Option NodeKind := none
  /-- `-e`: the enum of the constants. -/
  enumType : Option String := none
  /-- `-p`: patterns of which a name must match one; without patterns every name is included. -/
  patterns : List NamePattern := []
  /-- `-x`: names that are left out. -/
  excluded : List String := []
  /-- `-s`: what is removed from the start of a name. -/
  stripped : Option String := none
  /-- `-a`: the layout fact. -/
  property : Option Property := none
  /-- `-f`: the format of a row. -/
  rowFormat : Option String := none
  /-- `-C`: rows are cells that are joined by commas. -/
  composite : Bool := false
  /-- `-Q`: names are written as string literals. -/
  quote : Bool := false
  /-- `-R`: values are source tokens. -/
  rawTokens : Bool := false
  /-- `-A`: the large-file definitions are in force. -/
  largeFile : Bool := false
  deriving DecidableEq, Repr

namespace Options

/-- Whether a kind is asked for. Without `-w` the default kinds are, or all if there are none. -/
def acceptsKind (o : Options) (defaultKinds : List NodeKind) (kind : NodeKind) : Bool :=
  match o.kind with
  | some k => kind == k
  | none => defaultKinds.isEmpty || defaultKinds.contains kind

/-- Whether a declaration is a constant of the enum asked for. A constant of an anonymous enum is
if the enum's name begins its own. -/
def acceptsEnum (o : Options) (d : Decl) : Bool :=
  match o.enumType with
  | none => true
  | some enumType =>
    d.kind == .enumConstantDecl &&
      match d.enclosingEnum? with
      | some parent => parent == enumType
      | none => Text.startsWith enumType.toList d.name.toList

/-- Whether a name is included and not left out. -/
def acceptsName (o : Options) (name : String) : Bool :=
  (o.patterns.isEmpty || o.patterns.any (·.isMatch name)) && !o.excluded.contains name

/-- Whether a declaration passes the filters. -/
def accepts (o : Options) (defaultKinds : List NodeKind) (d : Decl) : Bool :=
  o.acceptsKind defaultKinds d.kind && o.acceptsEnum d && o.acceptsName d.name

/-- A kind that every accepted declaration has, if the filters fix one. -/
def kindHint (o : Options) (defaultKinds : List NodeKind) : Option NodeKind :=
  match o.kind, defaultKinds with
  | some kind, _ => some kind
  | none, [only] => some only
  | none, _ => none

end Options

end HeaderFacts

import HeaderFacts.Dump.Basic
import HeaderFacts.Word64
import HeaderFacts.Yaml.Node

/-!
# Dumps as YAML

How a dump is read from a YAML node. A plain scalar is text where text is wanted and a number where
a number is; a quoted one is text alone. What is written as nothing is an empty collection.

Main definitions:

* `Yaml.Node.asInt64?`, `Yaml.Node.asBool?`, … — what scalars denote.
* `Dump.ofYaml?` — the dump that a node denotes.
-/

namespace HeaderFacts

namespace Yaml

/-! ## Scalars -/

/-- The tag of a core type. -/
def coreTag (name : String) : String :=
  "tag:yaml.org,2002:" ++ name

/-- The number that at least one digit denotes. -/
def digitsValue? (base : Nat) (cs : List Char) : Option Nat :=
  if cs.isEmpty then none else Text.numeral? base cs

/-- The number that digits denote after their sign; a prefix tells the base. Decimal digits with a
zero before them are no number. -/
def unsignedValue? : List Char → Option Nat
  | '0' :: 'x' :: digits => digitsValue? 16 digits
  | '0' :: 'o' :: digits => digitsValue? 8 digits
  | '0' :: 'b' :: digits => digitsValue? 2 digits
  | '0' :: _ :: _ => none
  | digits => digitsValue? 10 digits

/-- The integer that a plain text denotes. -/
def integerValue? (text : String) : Option Int :=
  match text.toList with
  | '-' :: digits => (unsignedValue? digits).map fun n => -(n : Int)
  | '+' :: digits => (unsignedValue? digits).map Int.ofNat
  | digits => (unsignedValue? digits).map Int.ofNat

/-- Whether a plain text denotes null. -/
def isNull (text : String) : Bool :=
  ["null", "Null", "NULL", "~"].contains text

namespace Node

/-- The text of a scalar that may denote a value of a core type: a plain one, or a literal block
with the tag of the type. -/
def valueText? (type : String) : Node → Option String
  | scalar _ .plain text => some text
  | scalar (some tag) .literal text => if tag = coreTag type then some text else none
  | _ => none

/-- The string of a scalar. -/
def asString? : Node → Option String
  | scalar _ _ text => some text
  | _ => none

/-- The truth value of a scalar. -/
def asBool? (node : Node) : Option Bool := do
  let text ← node.valueText? "bool"
  if ["true", "True", "TRUE"].contains text then some true
  else if ["false", "False", "FALSE"].contains text then some false
  else none

/-- The 64-bit word of a scalar. -/
def asInt64? (node : Node) : Option Int64 := do
  wordOf? (← integerValue? (← node.valueText? "int"))

/-- Nothing for null, and otherwise what `f` reads. A text under the tag of null must be null. -/
def asOption? {α : Type} (f : Node → Option α) : Node → Option (Option α)
  | scalar tag .plain text =>
    match tag with
    | none =>
      if text.isEmpty || isNull text then some none else (f (scalar tag .plain text)).map some
    | some t =>
      if t = coreTag "null" then if isNull text then some none else none
      else (f (scalar tag .plain text)).map some
  | node => (f node).map some

/-! ## Collections -/

/-- The elements of a sequence, each read by `f`; an empty scalar has none. -/
def asList? {α : Type} (f : Node → Option α) : Node → Option (List α)
  | sequence _ items => items.mapM f
  | scalar _ _ text => if text.isEmpty then some [] else none
  | mapping _ _ => none

/-- The entries of a mapping, their keys as texts; an empty scalar has none. -/
def asEntries? : Node → Option (List (String × Node))
  | mapping _ entries => entries.mapM fun (key, value) => key.asString?.map (·, value)
  | scalar _ _ text => if text.isEmpty then some [] else none
  | sequence _ _ => none

/-- A map of a mapping; of two entries with one key the later counts. -/
def asMap? {α : Type} (f : Node → Option α) (node : Node) : Option (KeyMap α) := do
  let entries ← node.asEntries?
  return KeyMap.ofList (← entries.mapM fun (key, value) => (f value).map (key, ·))

/-- The parts of a record with the given keys, each of which it has once at most. -/
def record? (keys : List String) (node : Node) : Option (List (Option Node)) := do
  let entries ← node.asEntries?
  keys.mapM fun key =>
    match entries.filter (·.1 = key) with
    | [] => some none
    | [(_, value)] => some (some value)
    | _ => none

/-- What a part denotes, or the value that stands for an absent part. -/
def orDefault {α : Type} (default : α) (read : Node → Option α) : Option Node → Option α
  | none => some default
  | some value => read value

end Node

end Yaml

open Yaml (Node)

/-- A kind: its name, or nothing under its name as a tag. -/
def NodeKind.ofYaml? : Node → Option NodeKind
  | .scalar tag style text =>
    match tag.map String.toList with
    | some ('!' :: name) =>
      if style = .plain ∧ (text.isEmpty ∨ Yaml.isNull text) then
        NodeKind.ofText? (String.ofList name)
      else none
    | _ => NodeKind.ofText? text
  | _ => none

/-- The member of a type that a node denotes. -/
def Field.ofYaml? (node : Node) : Option Field := do
  match ← node.record? ["name", "offset"] with
  | [name, offset] =>
    return { name := ← (← name).asString?, offset := ← (← offset).asInt64? }
  | _ => none

/-- The layout that a node denotes. -/
def Layout.ofYaml? (node : Node) : Option Layout := do
  match ← node.record? ["size", "align", "fields"] with
  | [size, align, fields] =>
    return { size := ← (← size).asInt64?
             align := ← (← align).asInt64?
             fields := ← Node.orDefault [] (Node.asList? Field.ofYaml?) fields }
  | _ => none

/-- The declaration that a node denotes. -/
def Decl.ofYaml? (node : Node) : Option Decl := do
  match ← node.record? ["kind", "name", "definition", "enum_name", "value", "layout", "tokens",
      "when"] with
  | [kind, name, definition, enumName, value, layout, tokens, when] =>
    return { kind := ← NodeKind.ofYaml? (← kind)
             name := ← (← name).asString?
             definition := ← Node.orDefault true Node.asBool? definition
             enumName := ← Node.orDefault none (Node.asOption? Node.asString?) enumName
             value := ← Node.orDefault none (Node.asOption? Node.asInt64?) value
             layout := ← Node.orDefault none (Node.asOption? Layout.ofYaml?) layout
             tokens := ← Node.orDefault [] (Node.asList? Node.asString?) tokens
             when := ← Node.orDefault .empty (Node.asMap? Node.asString?) when }
  | _ => none

/-- The dump that a node denotes. -/
def Dump.ofYaml? (node : Node) : Option Dump := do
  match ← node.record? ["target", "headers"] with
  | [target, headers] =>
    return { target := ← (← target).asString?
             headers := ← Node.orDefault .empty (Node.asMap? (Node.asList? Decl.ofYaml?)) headers }
  | _ => none

end HeaderFacts

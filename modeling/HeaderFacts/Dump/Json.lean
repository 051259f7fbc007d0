import HeaderFacts.Dump.Basic
import HeaderFacts.Json.Basic

/-!
# Dumps as JSON

How a dump is written as a JSON value and read from one. Parts that are absent or empty are left
out; reading accepts records as objects or as arrays of their parts.

Main definitions:

* `Dump.toJson`, `Decl.toJson` — the written form.
* `Dump.ofJson?`, `Decl.ofJson?` — what a value denotes.
-/

namespace HeaderFacts

/-! ## Writing -/

/-- A member of an object, unless its value is empty. -/
def memberUnless (isEmpty : Bool) (key : String) (value : Json) : List (String × Json) :=
  if isEmpty then [] else [(key, value)]

/-- A member of an object, if there is a value. -/
def memberOf {α : Type} (key : String) (write : α → Json) : Option α → List (String × Json)
  | none => []
  | some value => [(key, write value)]

/-- A word as a number. -/
def wordToJson (n : Int64) : Json := .int n.toInt

/-- A member of a type, written. -/
def Field.toJson (f : Field) : Json :=
  .obj [("name", .str f.name), ("offset", wordToJson f.offset)]

/-- A layout, written. -/
def Layout.toJson (l : Layout) : Json :=
  .obj ([("size", wordToJson l.size), ("align", wordToJson l.align)] ++
    memberUnless l.fields.isEmpty "fields" (.arr (l.fields.map Field.toJson)))

/-- A declaration, written. -/
def Decl.toJson (d : Decl) : Json :=
  .obj ([("kind", .str d.kind.text), ("name", .str d.name), ("definition", .bool d.definition)] ++
    memberOf "enum_name" Json.str d.enumName ++
    memberOf "value" wordToJson d.value ++
    memberOf "layout" Layout.toJson d.layout ++
    memberUnless d.tokens.isEmpty "tokens" (.arr (d.tokens.map Json.str)) ++
    memberUnless d.when.isEmpty "when"
      (.obj (d.when.entries.map fun (name, value) => (name, .str value))))

/-- A dump, written. -/
def Dump.toJson (d : Dump) : Json :=
  .obj [("target", .str d.target),
    ("headers", .obj (d.headers.entries.map fun (path, decls) =>
      (path, .arr (decls.map Decl.toJson))))]

/-! ## Reading -/

/-- A kind: its name, or an object with its name as the only key and null as the value. -/
def NodeKind.ofJson? : Json → Option NodeKind
  | .str text => NodeKind.ofText? text
  | .obj [(text, .null)] => NodeKind.ofText? text
  | _ => none

/-- What a part denotes, or the value that stands for an absent part. -/
def orDefault {α : Type} (default : α) (read : Json → Option α) : Option Json → Option α
  | none => some default
  | some value => read value

/-- A map of an object; of two members with one key the later counts. -/
def mapOfJson? {α : Type} (read : Json → Option α) (j : Json) : Option (KeyMap α) :=
  (j.asMembers? read).map KeyMap.ofList

/-- The member of a type that a value denotes. -/
def Field.ofJson? (j : Json) : Option Field := do
  match ← j.record? ["name", "offset"] with
  | [name, offset] =>
    return { name := ← (← name).asString?, offset := ← (← offset).asInt64? }
  | _ => none

/-- The layout that a value denotes. -/
def Layout.ofJson? (j : Json) : Option Layout := do
  match ← j.record? ["size", "align", "fields"] with
  | [size, align, fields] =>
    return { size := ← (← size).asInt64?
             align := ← (← align).asInt64?
             fields := ← orDefault [] (Json.asList? Field.ofJson?) fields }
  | _ => none

/-- The declaration that a value denotes. -/
def Decl.ofJson? (j : Json) : Option Decl := do
  match ← j.record? ["kind", "name", "definition", "enum_name", "value", "layout", "tokens",
      "when"] with
  | [kind, name, definition, enumName, value, layout, tokens, when] =>
    return { kind := ← NodeKind.ofJson? (← kind)
             name := ← (← name).asString?
             definition := ← orDefault true Json.asBool? definition
             enumName := ← orDefault none (Json.asOption? Json.asString?) enumName
             value := ← orDefault none (Json.asOption? Json.asInt64?) value
             layout := ← orDefault none (Json.asOption? Layout.ofJson?) layout
             tokens := ← orDefault [] (Json.asList? Json.asString?) tokens
             when := ← orDefault .empty (mapOfJson? Json.asString?) when }
  | _ => none

/-- The dump that a value denotes. -/
def Dump.ofJson? (j : Json) : Option Dump := do
  match ← j.record? ["target", "headers"] with
  | [target, headers] =>
    return { target := ← (← target).asString?
             headers := ← orDefault .empty (mapOfJson? (Json.asList? Decl.ofJson?)) headers }
  | _ => none

end HeaderFacts

import HeaderFacts.Config.Setting
import HeaderFacts.Text.Numeral
import HeaderFacts.Word64

/-!
# Key paths

Where in the settings a layer writes: a name, followed by names after dots and positions in
brackets, as in `template.inert[0].open`. Words of letters, digits, blanks, underscores and hyphens
are names.

Main definitions:

* `KeyPath` — a path.
* `KeyPath.ofText?` — reads a path.
* `Setting.write` — writes a setting at a path.
-/

namespace HeaderFacts

/-- One step of a path. -/
inductive KeyStep where
  | name (name : String)
  /-- A position in a list; a negative one counts from the end. -/
  | index (position : Int)
  deriving DecidableEq, Repr

/-- A path through the settings. -/
abbrev KeyPath := List KeyStep

namespace KeyPath

/-- Whether a character can stand in a name. -/
def isNameChar (c : Char) : Bool :=
  c.isAlphanum || c == ' ' || c == '_' || c == '-'

/-- Whether a character is white space around a position. -/
def isGap (c : Char) : Bool :=
  c == ' ' || c == '\t' || c == '\n' || c == '\r'

/-- The position that the text between brackets gives. -/
def positionOf? (text : List Char) : Option Int :=
  let text := ((text.dropWhile isGap).reverse.dropWhile isGap).reverse
  let (sign, digits) : Int × List Char :=
    match text with
    | '-' :: digits => (-1, digits)
    | digits => (1, digits)
  if digits.isEmpty || !digits.all Char.isDigit then none
  else
    (wordOf? (sign * Text.numeral 10 digits)).map Int64.toInt

/-- Reads the steps after the first name. The fuel is more than the characters left. -/
def stepsOf? : Nat → List Char → Option KeyPath
  | 0, _ => none
  | _, [] => some []
  | fuel + 1, '.' :: text => do
    let word := text.takeWhile isNameChar
    if word.isEmpty then none
    return .name (String.ofList word) :: (← stepsOf? fuel (text.drop word.length))
  | fuel + 1, '[' :: text => do
    let inner := text.takeWhile (· != ']')
    if inner.length = text.length then none
    let position ← positionOf? inner
    return .index position :: (← stepsOf? fuel (text.drop (inner.length + 1)))
  | _, _ => none

/-- Reads a path. -/
def ofText? (text : String) : Option KeyPath :=
  let cs := text.toList
  let word := cs.takeWhile isNameChar
  if word.isEmpty then none
  else (stepsOf? (cs.length + 1) (cs.drop word.length)).map (.name (String.ofList word) :: ·)

/-- The path of a key of a layer. A key that is no path is a name, whatever its characters. -/
def ofKey (key : String) : KeyPath :=
  (ofText? key).getD [.name key]

end KeyPath

namespace Setting

/-- The place in a list that a position means, if that is not before its start. -/
def placeOf? (position : Int) (length : Nat) : Option Nat :=
  let place := if position < 0 then length + position else position
  if place < 0 then none else some place.toNat

/-- A list that has the given place. -/
def extend (items : List Setting) (place : Nat) : List Setting :=
  items ++ List.replicate (place + 1 - items.length) unset

/-- What stands at a place once a setting is written there along a path. A group is laid over what
was there under a name, but replaces what was there in a list. -/
def write (value : Setting) : KeyPath → Option Setting → Setting
  | [], old => value.overlay old
  | .name name :: path, old =>
    let parent := group (old.getD unset).members
    parent.assign name (value.write path (parent.member? name))
  | .index position :: path, old =>
    let items := (old.getD unset).items
    match placeOf? position items.length with
    | none => list items
    | some place =>
      let items := extend items place
      -- At the end of the path what stood here is not laid under the new setting.
      let inner := if path.isEmpty then none else items[place]?
      list (items.set place (value.write path inner))

end Setting

end HeaderFacts

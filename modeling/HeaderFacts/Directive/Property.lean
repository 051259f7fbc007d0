import HeaderFacts.Error
import HeaderFacts.Text.Search

/-!
# Layout properties

The fact about a layout that the flag `-a` asks for. The member whose offset is meant stands after
a colon or, left out there, among the positional arguments.

Main definitions:

* `Property` — a layout fact.
* `PropertySelector` — the fact as the flag names it, its member perhaps still open.
* `PropertySelector.ofText` — reads the value of the flag.
-/

namespace HeaderFacts

/-- A layout fact. -/
inductive Property where
  | size
  | alignment
  | offset (member : String)
  deriving DecidableEq, Repr

namespace Property

/-- How an error names the fact. -/
def label : Property → String
  | size => "size"
  | alignment => "alignment"
  | offset member => s!"offset of '{member}'"

/-- How a directive names the fact. -/
def text : Property → String
  | size => "size"
  | alignment => "alignment"
  | offset member => "offset:" ++ member

end Property

/-- A layout fact whose member may still be open. -/
inductive PropertySelector where
  | size
  | alignment
  | offset (member : Option String)
  deriving DecidableEq, Repr

/-- Reads the value of `-a`. -/
def PropertySelector.ofText (text : String) : Except ExtractionError PropertySelector :=
  match text with
  | "size" => .ok .size
  | "alignment" => .ok .alignment
  | "offset" => .ok (.offset none)
  | _ =>
    match Text.cut? ':' text.toList with
    | none => .error (.invalid (.unknownProperty text))
    | some (name, member) =>
      match String.ofList name with
      | "size" => .error (.invalid (.propertyTakesNone "size"))
      | "alignment" => .error (.invalid (.propertyTakesNone "alignment"))
      | "offset" =>
        if member.isEmpty then .error (.malformed .memberMissing)
        else .ok (.offset (some (String.ofList member)))
      | _ => .error (.invalid (.unknownProperty text))

end HeaderFacts

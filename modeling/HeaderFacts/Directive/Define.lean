import HeaderFacts.Error
import HeaderFacts.Text.Search

/-!
# Preprocessor definitions

Definitions such as `NAME=VALUE` or `NAME`, which means the value `1`.

Main definitions:

* `Define` — a name and its value.
* `Define.ofText` — reads a definition.
-/

namespace HeaderFacts

/-- A preprocessor definition: a name and its value. -/
abbrev Define := String × String

namespace Define

/-- Whether a character can begin the name of a macro. -/
def isNameStart (c : Char) : Bool :=
  c.isAlpha || c == '_'

/-- Whether a text can be the name of a macro. -/
def isName : List Char → Bool
  | [] => false
  | c :: cs => isNameStart c && cs.all fun c => isNameStart c || c.isDigit

/-- Reads a definition. -/
def ofText (text : String) : Except ExtractionError Define :=
  let (name, value) := (Text.cut? '=' text.toList).getD (text.toList, ['1'])
  if isName name then .ok (String.ofList name, String.ofList value)
  else .error (.invalid (.badDefine text))

end Define

end HeaderFacts

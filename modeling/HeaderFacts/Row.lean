import HeaderFacts.Directive.Options
import HeaderFacts.Text.Literal

/-!
# Rows

How a name and a value are written as one row of a generated table.

Main definitions:

* `quoted` — a text as a string literal.
* `Options.formatName` — a name without its prefix, quoted if the options say so.
* `Options.formatRow` — a row.
-/

namespace HeaderFacts

/-- A text as a string literal. -/
def quoted (text : String) : String :=
  String.ofList (Text.literal text.toList)

/-- What stands for the name in a row format. -/
def namePlaceholder : List Char := ['\x7b', 'n', 'a', 'm', 'e', '\x7d']

/-- What stands for the value in a row format. -/
def valuePlaceholder : List Char := ['\x7b', 'v', 'a', 'l', 'u', 'e', '\x7d']

/-- The row format without `-f`: the name, an equals sign between spaces and the value. -/
def defaultRowFormat : List Char :=
  namePlaceholder ++ [' ', '=', ' '] ++ valuePlaceholder

namespace Options

/-- A name without the prefix that is to be removed, if it begins with that. -/
def stripName (o : Options) (name : String) : String :=
  match o.stripped with
  | none => name
  | some start =>
    match Text.stripStart? start.toList name.toList with
    | none => name
    | some rest => String.ofList rest

/-- A name as it is written in a row. -/
def formatName (o : Options) (name : String) : String :=
  if o.quote then quoted (o.stripName name) else o.stripName name

/-- A row: a cell `[name]=value` in composite mode, and otherwise the row format with its
placeholders replaced, first those for the name and then those for the value. -/
def formatRow (o : Options) (name value : String) : String :=
  let name := o.formatName name
  if o.composite then "[" ++ name ++ "]=" ++ value
  else
    let format := (o.rowFormat.map String.toList).getD defaultRowFormat
    let named := Text.replaceAll namePlaceholder name.toList format
    String.ofList (Text.replaceAll valuePlaceholder value.toList named)

end Options

end HeaderFacts

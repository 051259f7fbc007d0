import HeaderFacts.Directive.Basic

/-!
# Canonical text of directives

A directive can be written in many ways: its flags in any order, its words with or without quotes,
the member of an offset in two places. The canonical text is one of them. It quotes every word but
the module's name and the flags, puts the flags in a fixed order, and puts one space between words.

Main definitions:

* `Arg.line` — the line of some words.
* `Arguments.words` — the words that say the same as arguments that have been read.
* `Directive.canonical` — the canonical text.
-/

namespace HeaderFacts

namespace Arg

/-- A character as it stands between quotes. -/
def escapeChar (c : Char) : List Char :=
  if c = '\x22' ∨ c = '\\' then ['\\', c] else [c]

/-- How a word is written. -/
def written : Arg → List Char
  | bare t => t.toList
  | quoted t => '\x22' :: (t.toList.flatMap escapeChar ++ ['\x22'])
  | separator => ['-', '-']

/-- The line of some words, with single spaces between them. -/
def line (args : List Arg) : String :=
  String.ofList ([' '].intercalate (args.map written))

end Arg

/-- A flag with a value. -/
def ValueFlag.words (flag : ValueFlag) (value : String) : List Arg :=
  [.bare flag.text, .quoted value]

/-- A switch that may be set. -/
def Switch.words (switch : Switch) (set : Bool) : List Arg :=
  if set then [.bare switch.text] else []

/-- The flags of options, but for the property. -/
def Options.words (o : Options) : List Arg :=
  (o.kind.toList.flatMap fun kind => ValueFlag.kind.words kind.text) ++
  (o.enumType.toList.flatMap fun name => ValueFlag.enumType.words name) ++
  (o.patterns.flatMap fun pattern => ValueFlag.pattern.words pattern.source) ++
  (o.excluded.flatMap fun name => ValueFlag.exclude.words name) ++
  (o.stripped.toList.flatMap fun start => ValueFlag.strip.words start) ++
  (o.rowFormat.toList.flatMap fun format => ValueFlag.rowFormat.words format)

/-- The switches of options. -/
def Options.switchWords (o : Options) : List Arg :=
  Switch.composite.words o.composite ++ Switch.quote.words o.quote ++
    Switch.rawTokens.words o.rawTokens ++ Switch.largeFile.words o.largeFile

namespace Arguments

/-- The flag for the property and the positional arguments. The member of an offset is the only
positional argument, unless there are others. -/
def propertyWords (property : Option Property) (userArgs : List String) :
    List Arg × List String :=
  match property, userArgs with
  | none, userArgs => ([], userArgs)
  | some (.offset member), [] => (ValueFlag.property.words "offset", [member])
  | some property, userArgs => (ValueFlag.property.words property.text, userArgs)

/-- Positional arguments after a separator, which is left out if there are none. -/
def positionalWords (userArgs : List String) : List Arg :=
  if userArgs.isEmpty then [] else .separator :: userArgs.map .quoted

/-- Words that say the same as arguments that have been read. -/
def words (a : Arguments) : List Arg :=
  let (property, positional) := propertyWords a.options.property a.userArgs
  a.options.words ++
    (a.defines.flatMap fun (name, value) => ValueFlag.define.words (name ++ "=" ++ value)) ++
    a.options.switchWords ++ property ++ a.headers.map .quoted ++ positionalWords positional

end Arguments

/-- The canonical text of a directive. -/
def Directive.canonical (d : Directive) : String :=
  Arg.line (.bare d.moduleName :: d.toArguments.words)

end HeaderFacts

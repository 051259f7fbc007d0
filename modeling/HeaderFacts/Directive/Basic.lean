import HeaderFacts.Directive.Flag

/-!
# Directives

A directive names a module and gives it flags, headers and, after a separator, positional
arguments. Flags come before headers. Everything that does not depend on the module is checked
here, before any declaration is looked at.

Main definitions:

* `Arguments` — what the arguments after the module's name say.
* `Arguments.ofArgs` — reads them.
* `Directive` — a module with its arguments.
* `Directive.ofText` — reads a directive.
-/

namespace HeaderFacts

/-- What the arguments of a directive say. -/
structure Arguments where
  options : Options := {}
  defines : List Define := []
  headers : List String := []
  userArgs : List String := []
  deriving DecidableEq, Repr

namespace Arguments

/-- Reads arguments from the left on top of a draft. -/
def readFrom (d : Draft) : List Arg → Except ExtractionError Draft
  | [] => .ok d
  -- After a separator nothing is a flag or a header.
  | .separator :: rest => .ok { d with userArgs := rest.map Arg.text }
  | arg :: rest =>
    if !arg.isFlag then readFrom { d with headers := d.headers ++ [arg.text] } rest
    else
      match d.headers with
      | header :: _ => .error (.malformed (.flagAfterHeader arg.text header))
      | [] =>
        match Switch.ofText? arg.text, ValueFlag.ofText? arg.text with
        | some switch, _ => readFrom (d.flip switch) rest
        | none, none => .error (.malformed (.unknownFlag arg.text))
        | none, some flag =>
          match rest with
          | [] => .error (.malformed (.missingValue arg.text))
          | .separator :: _ => .error (.malformed (.missingValue arg.text))
          | value :: rest =>
            match d.store flag value.text with
            | .error e => .error e
            | .ok d => readFrom d rest

/-- The property that a selector means, and the positional arguments left after it took its member
from them. -/
def settle (selector : Option PropertySelector) (userArgs : List String) :
    Except ExtractionError (Option Property × List String) :=
  match selector with
  | none => .ok (none, userArgs)
  | some .size => .ok (some .size, userArgs)
  | some .alignment => .ok (some .alignment, userArgs)
  | some (.offset (some member)) => .ok (some (.offset member), userArgs)
  | some (.offset none) =>
    match userArgs with
    | [member] => .ok (some (.offset member), [])
    | _ => .error (.malformed (.memberCount userArgs.length))

/-- What a draft says once all arguments are read. -/
def ofDraft (d : Draft) : Except ExtractionError Arguments := do
  if d.headers.isEmpty then throw (.malformed .noHeader)
  match d.options.kind, d.options.enumType with
  | some kind, some enumType =>
    if kind ≠ .enumConstantDecl then throw (.invalid (.enumOfOtherKind enumType kind))
  | _, _ => pure ()
  let (property, userArgs) ← settle d.selector d.userArgs
  return { options := { d.options with property }, defines := d.defines, headers := d.headers,
           userArgs }

/-- Reads the arguments after the module's name. -/
def ofArgs (args : List Arg) : Except ExtractionError Arguments := do
  ofDraft (← readFrom {} args)

end Arguments

/-- A directive. -/
structure Directive extends Arguments where
  moduleName : String
  deriving DecidableEq, Repr

namespace Directive

/-- Reads a directive. -/
def ofText (line : String) : Except ExtractionError Directive := do
  match ← Arg.split line with
  | [] => throw (.malformed .emptyDirective)
  | .bare name :: rest =>
    if Text.startsWith ['-'] name.toList then throw (.malformed (.moduleExpected name))
    else return { ← Arguments.ofArgs rest with moduleName := name }
  | other :: _ => throw (.malformed (.moduleExpected other.text))

end Directive

end HeaderFacts

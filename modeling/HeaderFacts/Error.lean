import HeaderFacts.Decl.Kind

/-!
# Errors

Why a directive cannot be carried out. An error is a cause with its data; the wording stands in one
function for each family. Zero matching declarations are no error.

Main definitions:

* `QueryError` — what the declarations of a header could not answer.
* `Malformed`, `InvalidArgument` — directives of the wrong form, and flags with wrong values.
* `ExtractionError` — every way a directive can fail, with its `kind` and `message`.
-/

namespace HeaderFacts

/-- What the declarations of a header could not answer. -/
inductive QueryError where
  | headerNotFound (header : String)
  | property (label name : String)
  | load (path reason : String)
  deriving DecidableEq, Repr

/-- Ways in which a directive has the wrong form. -/
inductive Malformed where
  | unterminatedQuote (column : Nat)
  | emptyDirective
  | moduleExpected (found : String)
  | flagAfterHeader (flag header : String)
  | missingValue (flag : String)
  | unknownFlag (flag : String)
  | noHeader
  | memberCount (count : Nat)
  | memberMissing
  | unknownModule (name : String)
  | patternRequired (moduleName : String)
  | propertyRequired (moduleName : String)
  | positional (moduleName : String) (count : Nat)
  deriving DecidableEq, Repr

/-- Values that a flag or a module cannot take. -/
inductive InvalidArgument where
  | unknownKind (text : String)
  | badPattern (source : String)
  | flagTwice (flag : String)
  | enumOfOtherKind (enumType : String) (kind : NodeKind)
  | badDefine (text : String)
  | propertyTakesNone (name : String)
  | unknownProperty (text : String)
  | patternCount (moduleName : String) (count : Nat)
  | flagRejected (moduleName flag : String)
  deriving DecidableEq, Repr

/-- Why a directive cannot be carried out. -/
inductive ExtractionError where
  | malformed (cause : Malformed)
  | invalid (cause : InvalidArgument)
  | query (cause : QueryError)
  | multipleMatches (first second : String)
  | unsupportedAlignment (alignment : Nat)
  | unsupportedSize (size alignment : Nat)
  | unrecognizedDialect (legacy largeFile : Option Nat)
  deriving DecidableEq, Repr

/-! ## Wording -/

/-- The wording of a query error. -/
def QueryError.message : QueryError → String
  | headerNotFound header => s!"header '{header}' could not be resolved"
  | property label name => s!"could not determine {label} of '{name}'"
  | load path reason => s!"could not load declaration dump {path}: {reason}"

/-- The wording of a wrong form. -/
def Malformed.message : Malformed → String
  | unterminatedQuote column => s!"unterminated quote at column {column}"
  | emptyDirective => "empty directive"
  | moduleExpected found => s!"expected a module name, found '{found}'"
  | flagAfterHeader flag header => s!"flag {flag} after header '{header}'"
  | missingValue flag => s!"flag {flag} needs a value"
  | unknownFlag flag => s!"unknown flag {flag}"
  | noHeader => "no header given"
  | memberCount count => s!"-a offset needs exactly one member name argument, got {count}"
  | memberMissing => "property 'offset:' needs a member name"
  | unknownModule name => s!"unknown module '{name}'"
  | patternRequired moduleName => s!"module '{moduleName}' needs at least one -p name pattern"
  | propertyRequired moduleName =>
    s!"module '{moduleName}' needs -a size|alignment|offset:<member>"
  | positional moduleName count =>
    s!"module '{moduleName}' takes no positional arguments, got {count}"

/-- The wording of a wrong value. -/
def InvalidArgument.message : InvalidArgument → String
  | unknownKind text => s!"unknown declaration kind '{text}'"
  | badPattern source => s!"bad name pattern '{source}': <regex error>"
  | flagTwice flag => s!"flag {flag} given twice"
  | enumOfOtherKind enumType kind =>
    s!"-e {enumType} only applies to EnumConstantDecl, not " ++ kind.text
  | badDefine text => s!"bad preprocessor define '{text}'"
  | propertyTakesNone name => s!"property '{name}' takes no argument"
  | unknownProperty text => s!"unknown property '{text}'"
  | patternCount moduleName count =>
    s!"module '{moduleName}' needs exactly two -p patterns (legacy, large-file), got {count}"
  | flagRejected moduleName flag => s!"module '{moduleName}' does not accept {flag}"

namespace ExtractionError

/-- How a candidate value is shown: its decimal digits, or that it is absent. -/
def describe : Option Nat → String
  | some value => toString value
  | none => "absent"

/-- The wording of an error. -/
def message : ExtractionError → String
  | malformed cause => "malformed directive: " ++ cause.message
  | invalid cause => "invalid argument: " ++ cause.message
  | query cause => cause.message
  | multipleMatches first second => s!"more than one declaration matches: '{first}' and '{second}'"
  | unsupportedAlignment alignment =>
    s!"unsupported alignment {alignment} (expected 1, 2, 4 or 8)"
  | unsupportedSize size alignment =>
    s!"unsupported size {size}: not a multiple of alignment {alignment}"
  | unrecognizedDialect legacy largeFile =>
    "unrecognized dialect (legacy: " ++ describe legacy ++ ", large-file: " ++
      describe largeFile ++ ")"

/-- The name of the kind of an error. -/
def kind : ExtractionError → String
  | malformed _ => "MalformedDirective"
  | invalid _ => "InvalidArgument"
  | query _ => "QueryError"
  | multipleMatches _ _ => "MultipleMatchesError"
  | unsupportedAlignment _ => "UnsupportedAlignment"
  | unsupportedSize _ _ => "UnsupportedSize"
  | unrecognizedDialect _ _ => "UnrecognizedDialectError"

end ExtractionError

/-- The kind that a text names. -/
def NodeKind.ofText (text : String) : Except ExtractionError NodeKind :=
  match ofText? text with
  | none => .error (.invalid (.unknownKind text))
  | some kind => .ok kind

end HeaderFacts

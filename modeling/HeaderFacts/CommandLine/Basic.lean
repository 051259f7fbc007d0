/-!
# Command lines

Options come before, between and after the template; an argument of two hyphens ends them. The value
of an option stands after an equals sign, after a one-letter option itself, or in the next argument,
which then must not look like an option.

Main definitions:

* `CommandLine` — what the arguments give.
* `Report`, `ParserExit` — how reading the arguments can end a run.
* `UsageError` — why arguments cannot be understood.
* `CommandLine.ofArgs` — reads the arguments.
-/

namespace HeaderFacts

/-- What the arguments give. -/
structure CommandLine where
  template : Option String := none
  /-- The dump whose declarations are queried. -/
  dump : Option String := none
  /-- The include directories; if there are any, they replace those of the configuration. -/
  includePaths : List String := []
  config : Option String := none
  /-- Where the result is written, if not to the standard output. -/
  output : Option String := none
  listModules : Bool := false
  deriving DecidableEq, Repr

/-- What is said to whoever has given arguments that are refused, which is never nothing. -/
structure Report where
  text : String
  ne_empty : text ≠ ""
  deriving DecidableEq, Repr

/-- A line is not empty, since it ends. -/
theorem line_ne_empty (text : String) : text ++ "\n" ≠ "" := by
  intro h
  have hLength := congrArg String.length h
  rw [String.length_append] at hLength
  exact absurd hLength (Nat.succ_ne_zero _)

/-- How reading the arguments can end a run. -/
inductive ParserExit where
  /-- A text was asked for, which goes to the standard output. -/
  | told (text : String)
  /-- The arguments are refused, with a report for the error output. -/
  | refused (report : Report)
  deriving DecidableEq, Repr

/-- An option with a value. -/
inductive ValueOption where
  | ast
  | includePath
  | config
  | output
  deriving DecidableEq, Repr

/-- Why arguments cannot be understood. -/
inductive UsageError where
  | noArguments
  | missingValue (option : ValueOption)
  | givenTwice (option : ValueOption)
  | listModulesTwice
  | unknownOption (text : String)
  | unexpectedValue (option : String)
  | unexpectedArgument (text : String)
  | noTemplate
  | noDump
  deriving DecidableEq, Repr

/-! ## Wording -/

/-- The long name of an option. -/
def ValueOption.text : ValueOption → String
  | ast => "--ast"
  | includePath => "--include"
  | config => "--config"
  | output => "--output"

/-- The wording of an error. -/
def UsageError.message : UsageError → String
  | noArguments => "no arguments"
  | missingValue option => "a value is required for " ++ option.text
  | givenTwice option => option.text ++ " cannot be used multiple times"
  | listModulesTwice => "--list-modules cannot be used multiple times"
  | unknownOption text => s!"unexpected argument '{text}'"
  | unexpectedValue option => s!"unexpected value for '{option}'"
  | unexpectedArgument text => s!"unexpected argument '{text}'"
  | noTemplate => "a template is required"
  | noDump => "--ast is required"

/-- What the reading of arguments comes upon that ends it. -/
inductive Interruption where
  | help
  | version
  | usage (cause : UsageError)
  deriving DecidableEq, Repr

/-- The text of `--version`. -/
def versionText : String :=
  "declsplice 0.1.0\n"

/-- The text of `--help`. -/
def helpText : String :=
  "Splice C header declaration facts into binding templates\n\n" ++
  "Usage: declsplice <template> --ast <dump> [-I <dir>]... [--config <file>] [-o <file>]\n" ++
  "       declsplice --list-modules\n"

/-- How a run ends that is interrupted. -/
def Interruption.exit : Interruption → ParserExit
  | help => .told helpText
  | version => .told versionText
  | usage cause => .refused ⟨"error: " ++ cause.message ++ "\n", line_ne_empty _⟩

/-! ## Reading -/

/-- What one argument is. -/
inductive ArgumentForm where
  /-- Two hyphens, after which there are no options. -/
  | endOfOptions
  | help
  | version
  | listModules
  | option (option : ValueOption)
  | optionWith (option : ValueOption) (value : String)
  | unknown
  | unexpectedValue (option : String)
  | positional
  deriving DecidableEq, Repr

namespace ArgumentForm

/-- The form of an argument of two hyphens and a name, with the value after an equals sign. -/
def ofLong (name : String) (value : Option String) : ArgumentForm :=
  let valued (o : ValueOption) : ArgumentForm :=
    match value with
    | none => option o
    | some value => optionWith o value
  let plain (form : ArgumentForm) : ArgumentForm :=
    if value.isNone then form else unexpectedValue ("--" ++ name)
  match name with
  | "ast" => valued .ast
  | "include" => valued .includePath
  | "config" => valued .config
  | "output" => valued .output
  | "list-modules" => plain listModules
  | "version" => plain version
  | "help" => plain help
  | _ => unknown

/-- The form of an argument of one hyphen and a letter, with what follows the letter. -/
def ofShort (letter : Char) (rest : List Char) : ArgumentForm :=
  let valued (o : ValueOption) : ArgumentForm :=
    match rest with
    | [] => option o
    | '=' :: value => optionWith o (String.ofList value)
    | value => optionWith o (String.ofList value)
  match letter with
  | 'I' => valued .includePath
  | 'o' => valued .output
  | 'V' => version
  | 'h' => help
  | _ => unknown

/-- The form of an argument. -/
def ofText (text : String) : ArgumentForm :=
  match text.toList with
  | ['-', '-'] => endOfOptions
  | '-' :: '-' :: cs =>
    let name := cs.takeWhile (· != '=')
    let value := if name.length = cs.length then none else some (cs.drop (name.length + 1))
    ofLong (String.ofList name) (value.map String.ofList)
  | '-' :: letter :: rest => ofShort letter rest
  | _ => positional

end ArgumentForm

namespace CommandLine

/-- The value for an option that may be given once. -/
def once (option : ValueOption) (old : Option String) (new : String) :
    Except UsageError (Option String) :=
  match old with
  | none => .ok (some new)
  | some _ => .error (.givenTwice option)

/-- Stores the value of an option. -/
def store (a : CommandLine) (option : ValueOption) (value : String) :
    Except UsageError CommandLine := do
  match option with
  | .ast => return { a with dump := ← once option a.dump value }
  | .includePath => return { a with includePaths := a.includePaths ++ [value] }
  | .config => return { a with config := ← once option a.config value }
  | .output => return { a with output := ← once option a.output value }

/-- Takes an argument as the template. -/
def place (a : CommandLine) (text : String) : Except UsageError CommandLine :=
  match a.template with
  | none => .ok { a with template := some text }
  | some _ => .error (.unexpectedArgument text)

/-- Requires what the arguments must give once all of them are read. -/
def require (a : CommandLine) : Except UsageError CommandLine :=
  if a.listModules then .ok a
  else if a.template.isNone then .error .noTemplate
  else if a.dump.isNone then .error .noDump
  else .ok a

/-- Reads arguments from the left on top of others. Help and version are answered as soon as they
are met. -/
def readFrom (a : CommandLine) : List String → Except Interruption CommandLine
  | [] => a.require.mapError .usage
  | arg :: rest =>
    match ArgumentForm.ofText arg with
    | .endOfOptions => (do (← rest.foldlM place a).require).mapError .usage
    | .help => .error .help
    | .version => .error .version
    | .listModules =>
      if a.listModules then .error (.usage .listModulesTwice)
      else readFrom { a with listModules := true } rest
    | .optionWith option value => do readFrom (← (a.store option value).mapError .usage) rest
    | .unknown => .error (.usage (.unknownOption arg))
    | .unexpectedValue option => .error (.usage (.unexpectedValue option))
    | .positional => do readFrom (← (a.place arg).mapError .usage) rest
    | .option option =>
      match rest with
      | [] => .error (.usage (.missingValue option))
      | value :: rest =>
        if ArgumentForm.ofText value = .positional then do
          readFrom (← (a.store option value).mapError .usage) rest
        else .error (.usage (.missingValue option))

/-- Reads the arguments. -/
def ofArgs (args : List String) : Except ParserExit CommandLine :=
  let result := if args.isEmpty then .error (.usage .noArguments) else readFrom {} args
  result.mapError Interruption.exit

end CommandLine

end HeaderFacts

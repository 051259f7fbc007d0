import HeaderFacts.CommandLine.Basic
import HeaderFacts.CommandLine.World
import HeaderFacts.Config.Basic
import HeaderFacts.Dump.Catalog
import HeaderFacts.Dump.Load
import HeaderFacts.File.Tree

/-!
# Runs of the program

A run renders a template against a dump. It goes through stages of which the first to fail decides
the outcome: the arguments, the configuration, the dump, the definitions of `-A`, the template, and
last the output. Nothing is written before everything else has succeeded, except for the log.

The program does not read arguments, settings and the text of dumps by itself. It has tools for
these, and what is said of a run is said whatever they do.

Main definitions:

* `Tools` — the readers that the program relies on.
* `Failure` — the stage that failed, with its exit code and message.
* `RenderJob.run` — renders a template.
* `perform`, `execute` — a run of the program, without and with its exit code.
* `runCommand` — a run with two open streams and no log.
* `Outcome` — what a run shows.
-/

namespace HeaderFacts

/-! ## Tools -/

/-- The readers that the program relies on. -/
structure Tools where
  parseArgs : List String → Except ParserExit CommandLine
  /-- The configuration of files over the defaults and single settings over the files, or why there
  is none. -/
  loadConfig : List FileContent → List (String × Setting) → Except String Config
  /-- The dump of a text, which is YAML or else JSON. -/
  parseDump : Bool → String → Except String Dump

/-- The readers of this library. -/
def Tools.standard : Tools where
  parseArgs := CommandLine.ofArgs
  loadConfig files overrides := (Config.load files overrides).mapError ConfigError.message
  parseDump := Dump.parse

/-! ## Failures -/

/-- Why a run fails. -/
inductive Failure where
  /-- The arguments are refused by their reader. -/
  | usage (report : Report)
  /-- There is nothing to be rendered. -/
  | incomplete
  | config (reason : String)
  | dump (cause : QueryError)
  | largeFile (cause : ExtractionError)
  | template (path : String) (cause : TemplateError)
  | output (path : String) (fault : FileFault)
  /-- A stream does not take what is written to it. -/
  | stream (name : String)
  deriving DecidableEq, Repr

namespace Failure

/-- The exit code: 2 if arguments or configuration cannot be used, 1 if the rendering fails, and 101
for a panic. -/
def code : Failure → UInt32
  | usage _ => 2
  | incomplete => 2
  | config _ => 2
  | dump _ => 1
  | largeFile _ => 2
  | template _ _ => 1
  | output _ _ => 1
  | stream _ => 101

/-- The exit code if the message is not taken. All but the reader of the arguments panic. -/
def unheardCode : Failure → UInt32
  | usage _ => 2
  | _ => 101

/-- What the user is told. -/
def message : Failure → String
  | usage report => report.text
  | incomplete => "Error: a template and --ast are required\n"
  | config reason => "Configuration error: " ++ reason ++ "\n"
  | dump cause => "error[QueryError]: " ++ cause.message ++ "\n"
  | largeFile cause =>
    "Configuration error: query.largefile_defines: " ++ cause.message ++ "\n"
  | template path cause => s!"error[{cause.kind}]: {path}: " ++ cause.message ++ "\n"
  | output path fault => s!"Error writing {path}: " ++ fault.message ++ "\n"
  | stream name => s!"failed printing to {name}\n"

end Failure

/-- A run that may fail. -/
abbrev RunM (m : Type → Type) := ExceptT Failure m

section Steps

variable {m : Type → Type} [Monad m]

/-- A stage of a run. -/
def stage {ε α : Type} (result : Except ε α) (failure : ε → Failure) : RunM m α :=
  ExceptT.mk (pure (result.mapError failure))

/-- A step that writes to a stream, which has to take the text. -/
def onStream (name : String) (step : m Bool) : RunM m Unit := do
  unless ← step do throw (.stream name)

/-- Logs some events. -/
def logAll (machine : Machine m) (events : List LogEvent) : RunM m Unit :=
  events.forM fun event => onStream "stderr" (machine.log event)

end Steps

/-! ## What is asked for -/

/-- A template to be rendered, and with what. -/
structure RenderJob where
  template : String
  dump : String
  includePaths : List String := []
  config : Option String := none
  output : Option String := none
  deriving DecidableEq, Repr

/-- What a run is asked for. -/
inductive Invocation where
  /-- A text that the reader of the arguments has for its user. -/
  | told (text : String)
  | listModules
  | render (job : RenderJob)
  deriving DecidableEq, Repr

/-- What arguments ask for. -/
def CommandLine.invocation (a : CommandLine) : Except Failure Invocation :=
  if a.listModules then .ok .listModules
  else
    match a.template, a.dump with
    | some template, some dump =>
      .ok (.render { template, dump, includePaths := a.includePaths, config := a.config,
                     output := a.output })
    | _, _ => .error .incomplete

/-- What a run is asked for by its arguments. -/
def Tools.invocation (tools : Tools) (args : List String) : Except Failure Invocation :=
  match tools.parseArgs args with
  | .error (.told text) => .ok (.told text)
  | .error (.refused report) => .error (.usage report)
  | .ok a => a.invocation

/-! ## Rendering -/

section Rendering

variable {m : Type → Type} [Monad m]

/-- The name of a configuration file whose extension has been left out. -/
def withExtension (path : String) : String :=
  String.ofList (path.toList.reverse.dropWhile (· == '/')).reverse ++ ".toml"

/-- The content of a configuration file. Its name may leave out the extension. -/
def readConfig (machine : Machine m) (path : String) : m FileContent := do
  if ← machine.isFile path then machine.read path
  else if ← machine.isFile (withExtension path) then machine.read (withExtension path)
  else return .error .missing

namespace RenderJob

/-- The settings of the command line. -/
def overrides (job : RenderJob) : List (String × Setting) :=
  if job.includePaths.isEmpty then []
  else [("query.include_paths", .list (job.includePaths.map Setting.text))]

/-- The configuration of a job. -/
def loadConfig (machine : Machine m) (tools : Tools) (job : RenderJob) : RunM m Config := do
  let files ← job.config.toList.mapM fun path => ExceptT.lift (readConfig machine path)
  stage (tools.loadConfig files job.overrides) .config

/-- The engine for a job and the text of its template. -/
def prepare (machine : Machine m) (tools : Tools) (job : RenderJob) : RunM m (Engine × String) := do
  let config ← job.loadConfig machine tools
  let dump ← stage (Dump.load job.dump (← machine.read job.dump) tools.parseDump) .dump
  let catalog : Catalog := { dump, includePaths := config.includePaths }
  let engine ← stage (Engine.ofConfig catalog.openSession config) .largeFile
  let source ← stage (textOf (← machine.read job.template)) fun fault =>
    .template job.template (.unreadable job.template fault.message)
  return (engine, source)

/-- The text of a job's template, rendered. -/
def render (machine : Machine m) (tools : Tools) (job : RenderJob) : RunM m String := do
  let (engine, source) ← job.prepare machine tools
  logAll machine (engine.events source)
  stage (engine.render source) (.template job.template)

/-- Carries out a job. -/
def run (machine : Machine m) (tools : Tools) (job : RenderJob) : RunM m Unit := do
  -- Nothing is written unless the whole text is there.
  let text ← job.render machine tools
  match job.output with
  | none => onStream "stdout" (machine.print text)
  | some path => stage (← machine.write path text) (.output path)

end RenderJob

/-! ## Runs -/

/-- The lines of `--list-modules` for a module. -/
def listEntry (m : ExtractionModule) : String :=
  "  " ++ m.name ++ "\n    " ++ m.description ++ "\n"

/-- The text of `--list-modules`. -/
def listText (registry : Registry) : String :=
  "Available extraction modules:\n\n" ++ String.join (registry.modules.map listEntry)

/-- A run of the program up to its end or its failure. -/
def perform (machine : Machine m) (tools : Tools) (args : List String) : RunM m Unit := do
  onStream "stderr" machine.openLog
  match ← stage (tools.invocation args) id with
  | .told text => let _ ← machine.print text
  | .listModules => onStream "stdout" (machine.print (listText .standard))
  | .render job => job.run machine tools

/-- A run of the program, with its exit code. -/
def execute (machine : Machine m) (tools : Tools) (args : List String) : m UInt32 := do
  match ← (perform machine tools args).run with
  | .ok () => return 0
  | .error failure =>
    if ← machine.complain failure.message then return failure.code
    else return failure.unheardCode

end Rendering

/-- What a run shows. -/
structure Outcome where
  code : UInt32
  stdout : String
  stderr : String
  deriving DecidableEq, Repr

/-- A run with two open streams, no log and the readers of this library. -/
def runCommand {σ : Type} (disk : FileSystem σ) (args : List String) :
    RunM (StateM σ) Outcome :=
  ExceptT.mk fun files =>
    let (result, w) := (perform (World.machine disk .standard) .standard args).run.run { files }
    (result.map fun _ => { code := 0, stdout := w.stdout.shown, stderr := w.stderr.shown }, w.files)

/-- What the result of a run shows. A run that fails shows its message. -/
def Outcome.ofResult : Except Failure Outcome → Outcome
  | .ok outcome => outcome
  | .error failure => { code := failure.code, stdout := "", stderr := failure.message }

end HeaderFacts

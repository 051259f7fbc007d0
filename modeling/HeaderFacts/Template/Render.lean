import HeaderFacts.Module.Registry
import HeaderFacts.Template.Scan

/-!
# Rendering templates

The text of a template with each block replaced by the rows of its directives. The first directive
that fails aborts the rendering, and nothing is written.

Main definitions:

* `TemplateError` — why a template cannot be rendered.
* `composeRows` — the lines that the emissions of a block make.
* `Engine` — what directives are carried out with.
* `Engine.render` — renders a template.
-/

namespace HeaderFacts

/-- Why a template cannot be rendered. -/
inductive TemplateError where
  | directive (line : Nat) (text : String) (cause : ExtractionError)
  | scan (cause : ScanError)
  | unreadable (path reason : String)
  deriving DecidableEq, Repr

namespace TemplateError

/-- The wording of an error. -/
def message : TemplateError → String
  | directive line text cause => s!"line {line}: " ++ cause.message ++ s!" (directive `{text}`)"
  | scan cause => cause.message
  | unreadable path reason => s!"could not read template {path}: {reason}"

/-- The name of the kind of an error. -/
def kind : TemplateError → String
  | directive _ _ cause => cause.kind
  | scan _ => "MalformedTemplate"
  | unreadable _ _ => "IoError"

end TemplateError

/-! ## Rows of a block -/

/-- The line of a run of cells; no cells make no line. -/
def joinCells (run : List String) : List String :=
  if run.isEmpty then [] else [String.intercalate "," run]

/-- The lines that emissions make after a run of cells. Cells of neighbouring emissions share a
line, and an empty emission does not come between neighbours. -/
def composeRows (run : List String) : List Emission → List String
  | [] => joinCells run
  | e :: rest =>
    if e.isEmpty then composeRows run rest
    else if e.composite then composeRows (run ++ e.rows) rest
    else joinCells run ++ e.rows ++ composeRows [] rest

/-! ## Engines -/

/-- What directives are carried out with. -/
structure Engine where
  service : Service
  registry : Registry := .standard
  markers : Markers := {}
  /-- The definitions that `-A` adds. -/
  largeFile : List Define := []

namespace Engine

/-- The emission of a directive of a block. -/
def evaluate (e : Engine) (d : DirectiveLine) : Except TemplateError Emission :=
  (e.registry.evaluateLine e.service e.largeFile d.text).mapError (.directive d.line d.text)

/-- The lines of a block. -/
def renderBlock (e : Engine) (b : Block) : Except TemplateError (List String) := do
  return composeRows [] (← b.directives.mapM e.evaluate)

/-- The text of a segment. -/
def renderSegment (e : Engine) : Segment → Except TemplateError String
  | .text text => .ok text
  | .block b => do return String.join ((← e.renderBlock b).map (· ++ "\n"))

/-- The text of a template. -/
def render (e : Engine) (source : String) : Except TemplateError String := do
  let segments ← (e.markers.scan source).mapError TemplateError.scan
  return String.join (← segments.mapM e.renderSegment)

end Engine

end HeaderFacts

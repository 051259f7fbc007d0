import HeaderFacts.Template.Markers

/-!
# Scanning templates

A template is text with directive blocks in it. Scanning goes over its physical lines: a line is
outside of blocks, inside a block or in an inert region, and what is outside of blocks survives
character by character.

Main definitions:

* `Segment` — a piece of text or a block.
* `ScanError` — how a template can be malformed.
* `Place` — where a scan stands between two lines.
* `Place.step`, `Place.run`, `Place.finish` — what one line, some lines and the end of the source do.
* `Markers.scan` — the segments of a template.
-/

namespace HeaderFacts

/-- A directive, joined from the lines it is continued over. -/
structure DirectiveLine where
  /-- The number of its first line, counted from 1. -/
  line : Nat
  text : String
  deriving DecidableEq, Repr

/-- A directive block. -/
structure Block where
  /-- The number of its start marker's line, counted from 1. -/
  line : Nat
  directives : List DirectiveLine
  deriving DecidableEq, Repr

/-- A piece of a template. -/
inductive Segment where
  | text (text : String)
  | block (block : Block)
  deriving DecidableEq, Repr

/-- How a template can be malformed, and in which line. -/
inductive ScanError where
  | unterminatedBlock (line : Nat)
  | strayBlockEnd (line : Nat)
  | danglingContinuation (line : Nat)
  deriving DecidableEq, Repr

namespace ScanError

/-- The line at fault. -/
def line : ScanError → Nat
  | unterminatedBlock line => line
  | strayBlockEnd line => line
  | danglingContinuation line => line

/-- The name of the fault. -/
def kind : ScanError → String
  | unterminatedBlock _ => "UnterminatedBlock"
  | strayBlockEnd _ => "StrayBlockEnd"
  | danglingContinuation _ => "DanglingContinuation"

/-- The wording of the fault. -/
def message : ScanError → String
  | unterminatedBlock line => s!"line {line}: directive block is never closed"
  | strayBlockEnd line => s!"line {line}: block end marker outside of a directive block"
  | danglingContinuation line =>
    s!"line {line}: line continuation runs past the end of the block"

end ScanError

/-! ## Places -/

/-- A directive that goes on in the next line: its first line and its text so far. -/
structure Pending where
  line : Nat
  text : List Char
  deriving DecidableEq, Repr

/-- The text of a pending directive with one more line. Both parts are joined by a space unless one
of them is empty. -/
def Pending.join (p : Pending) (body : List Char) : Pending :=
  if body.isEmpty then p
  else if p.text.isEmpty then { p with text := body }
  else { p with text := p.text ++ ' ' :: body }

/-- The finished directive. -/
def Pending.finish (p : Pending) : DirectiveLine :=
  ⟨p.line, String.ofList (Text.trim p.text)⟩

/-- Where a scan stands between two lines. The lines of the current text and the directives of the
current block are in reverse. -/
inductive Place where
  | outside (text : List (List Char))
  | inert (closing : List Char) (text : List (List Char))
  | inside (start : Nat) (directives : List DirectiveLine) (pending : Option Pending)
  deriving DecidableEq, Repr

/-- The segment of some lines of text; no lines make no segment. -/
def textSegment (text : List (List Char)) : List Segment :=
  if text.isEmpty then [] else [.text (String.ofList text.reverse.flatten)]

/-! ## Scanning -/

/-- The place after a line inside a block that is not its end marker; `n` is the line's number. -/
def scanDirective (m : Markers) (n start : Nat) (directives : List DirectiveLine)
    (pending : Option Pending) (trimmed : List Char) : Place :=
  if trimmed.isEmpty && pending.isNone then .inside start directives none
  else
    let join (body : List Char) : Pending := (pending.map (·.join body)).getD ⟨n, body⟩
    match m.continued? trimmed with
    | some body => .inside start directives (some (join body))
    | none => .inside start ((join trimmed).finish :: directives) none

namespace Place

/-- What a line does at a place: the segments that it completes and the place after it; `n` is the
line's number. -/
def step (m : Markers) (n : Nat) (line : List Char) :
    Place → Except ScanError (List Segment × Place)
  -- Outside, the markers are looked for before the start of an inert region.
  | outside text =>
    let body := Text.lineBody line
    let trimmed := Text.trim body
    if trimmed = m.blockStart.toList then .ok (textSegment text, inside n [] none)
    else if trimmed = m.blockEnd.toList then .error (.strayBlockEnd n)
    else
      match m.opensInert? body with
      | some closing => .ok ([], inert closing (line :: text))
      | none => .ok ([], outside (line :: text))
  -- In an inert region nothing counts but its closing delimiter, anywhere in a line.
  | inert closing text =>
    if Text.occursIn closing (Text.lineBody line) then .ok ([], outside (line :: text))
    else .ok ([], inert closing (line :: text))
  -- Inside a block the end marker counts even where a directive should go on.
  | inside start directives pending =>
    let trimmed := Text.trim (Text.lineBody line)
    if trimmed = m.blockEnd.toList then
      match pending with
      | some pending => .error (.danglingContinuation pending.line)
      | none => .ok ([.block ⟨start, directives.reverse⟩], outside [])
    else .ok ([], scanDirective m n start directives pending trimmed)

/-- The segments that the end of the source completes. Text may end anywhere, also inside an inert
region; a block may not. -/
def finish : Place → Except ScanError (List Segment)
  | outside text => .ok (textSegment text)
  | inert _ text => .ok (textSegment text)
  | inside _ _ (some pending) => .error (.danglingContinuation pending.line)
  | inside start _ none => .error (.unterminatedBlock start)

/-- What some lines do, one after the other; `n` is the number of the first of them. -/
def run (m : Markers) (n : Nat) (p : Place) :
    List (List Char) → Except ScanError (List Segment × Place)
  | [] => .ok ([], p)
  | line :: rest => do
    let (done, next) ← p.step m n line
    let (more, last) ← next.run m (n + 1) rest
    return (done ++ more, last)

end Place

/-- The segments that the last lines of a source make, from a place on; `n` is the number of the
first of them. -/
def scanFrom (m : Markers) (n : Nat) (p : Place) (lines : List (List Char)) :
    Except ScanError (List Segment) := do
  let (done, last) ← p.run m n lines
  return done ++ (← last.finish)

/-- The segments of a template. -/
def Markers.scan (m : Markers) (source : String) : Except ScanError (List Segment) :=
  scanFrom m 1 (.outside []) (Text.lines source.toList)

end HeaderFacts

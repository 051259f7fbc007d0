import HeaderFacts.Template.Render

/-!
# Logs of a rendering

What is told about a rendering while it goes on. The wording is up to a logger, which is also free to
leave things out; how important an event is does not depend on the logger, and a rendering makes
nothing of importance.

Main definitions:

* `LogEvent` — what is told.
* `Engine.events` — what is told about the rendering of a template.
* `Logger` — how it is worded.
* `Logger.Quiet` — a logger that words warnings and errors only.

Main results:

* `Engine.rendered_mem_events_iff` — a template is told to be rendered exactly if it is.
* `Logger.Quiet.text_eq` — nothing is told by a quiet logger.
-/

namespace HeaderFacts

/-- The importance of an event. -/
inductive LogLevel where
  | debug
  | info
  | warn
  | error
  deriving DecidableEq, Repr

/-- Levels by rising importance. -/
def LogLevel.rank : LogLevel → Nat
  | debug => 0
  | info => 1
  | warn => 2
  | error => 3

/-- What is told about a rendering. -/
inductive LogEvent where
  /-- A directive is being carried out: all that is told on the way to its emission, or to the error
  at which that ends. -/
  | directive (d : DirectiveLine) (result : Except TemplateError Emission)
  /-- A template has been rendered. -/
  | rendered (blocks directives : Nat)

/-- The importance of an event. -/
def LogEvent.level : LogEvent → LogLevel
  | directive _ _ => .debug
  | rendered _ _ => .info

/-! ## Events -/

/-- The block that a segment is. -/
def Segment.block? : Segment → Option Block
  | text _ => none
  | block b => some b

namespace Engine

/-- What is told about directives, up to the first that fails. -/
def directiveEvents (e : Engine) : List DirectiveLine → List LogEvent
  | [] => []
  | d :: rest =>
    .directive d (e.evaluate d) ::
      match e.evaluate d with
      | .error _ => []
      | .ok _ => e.directiveEvents rest

/-- What is told about the rendering of a template. -/
def events (e : Engine) (source : String) : List LogEvent :=
  match e.markers.scan source with
  | .error _ => []
  | .ok segments =>
    let blocks := segments.filterMap Segment.block?
    let directives := blocks.flatMap Block.directives
    match e.render source with
    | .error _ => e.directiveEvents directives
    | .ok _ => e.directiveEvents directives ++ [.rendered blocks.length directives.length]

theorem rendered_not_mem_directiveEvents (e : Engine) (blocks directives : Nat)
    (ds : List DirectiveLine) : .rendered blocks directives ∉ e.directiveEvents ds := by
  induction ds with
  | nil => nofun
  | cons d rest ih =>
    rw [directiveEvents, List.mem_cons]
    rintro (h | h)
    · cases h
    · split at h
      · cases h
      · exact ih h

/-- It is told that a template has been rendered exactly if it has. -/
theorem rendered_mem_events_iff {e : Engine} {source : String} :
    (∃ blocks directives, .rendered blocks directives ∈ e.events source) ↔
      ∃ text, e.render source = .ok text := by
  unfold events
  cases hScan : e.markers.scan source with
  | error cause =>
    have hRender : e.render source = .error (.scan cause) := by rw [render, hScan]; rfl
    rw [hRender]
    exact ⟨fun ⟨_, _, h⟩ => (nomatch h), fun ⟨_, h⟩ => (nomatch h)⟩
  | ok segments =>
    cases e.render source with
    | error cause =>
      refine ⟨fun ⟨_, _, h⟩ => ?_, fun ⟨_, h⟩ => (nomatch h)⟩
      exact absurd h (rendered_not_mem_directiveEvents e _ _ _)
    | ok text =>
      exact ⟨fun _ => ⟨text, rfl⟩,
        fun _ => ⟨_, _, List.mem_append_right _ (List.mem_singleton_self _)⟩⟩

end Engine

/-! ## Loggers -/

/-- How events are worded. A line may also tell the time, so it comes with its place in the log. -/
structure Logger where
  /-- What is said before anything happens, about what the logger itself has been asked for. -/
  opening : String := ""
  line : Nat → LogEvent → String

namespace Logger

/-- The text of some events, of which the first has a place in the log. -/
def lines (logger : Logger) (start : Nat) : List LogEvent → String
  | [] => ""
  | e :: rest => logger.line start e ++ logger.lines (start + 1) rest

/-- The text of a whole log. -/
def text (logger : Logger) (events : List LogEvent) : String :=
  logger.opening ++ logger.lines 0 events

/-- A logger that words the events from some importance on. -/
def atLeast (least : LogLevel) (line : Nat → LogEvent → String) : Logger where
  line n e := if least.rank ≤ e.level.rank then line n e else ""

/-- A logger that says nothing of itself and words warnings and errors only. -/
structure Quiet (logger : Logger) : Prop where
  opening : logger.opening = ""
  line : ∀ n e, e.level.rank < LogLevel.warn.rank → logger.line n e = ""

/-- The logger that is used where none is asked for. It leaves out all but warnings and errors; of
these a rendering has none, so that their wording does not matter. -/
def standard : Logger := atLeast .warn fun _ _ => ""

theorem quiet_atLeast_warn (line : Nat → LogEvent → String) : (atLeast .warn line).Quiet :=
  ⟨rfl, fun _ _ h => if_neg (Nat.not_le.2 h)⟩

theorem quiet_standard : standard.Quiet := quiet_atLeast_warn _

/-- A rendering is nothing to warn of. -/
theorem rank_lt_warn (e : LogEvent) : e.level.rank < LogLevel.warn.rank := by
  cases e with
  | directive d result => exact Nat.zero_lt_two
  | rendered blocks directives => exact Nat.one_lt_two

variable {logger : Logger}

theorem Quiet.lines_eq (h : logger.Quiet) (start : Nat) (events : List LogEvent) :
    logger.lines start events = "" := by
  induction events generalizing start with
  | nil => rfl
  | cons e rest ih => rw [lines, h.line start e (rank_lt_warn e), ih, String.append_empty]

/-- A rendering is not told of by a quiet logger. -/
theorem Quiet.text_eq (h : logger.Quiet) (events : List LogEvent) : logger.text events = "" := by
  rw [text, h.opening, h.lines_eq, String.append_empty]

end Logger

end HeaderFacts

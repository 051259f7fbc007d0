import HeaderFacts.CommandLine.Run
import HeaderFacts.Proofs.FirstFailure

/-!
# Ways in which a run ends

A run is unrolled over a world. First it logs and reads, which changes nothing but the error output;
then it prints or writes once, or it fails. So there are a few ways in which a run ends, each with what
has gone before: what was asked for, how far the stages of a rendering went, and what has been logged
meanwhile. That a stream is broken is one more way to end, wherever it is written to.

Main definitions:

* `OnlyReads` — a step of a run that leaves the world as it is.
* `Murmured` — a world in which only the error output has gone on.
* `FileSystem.preparation` — what a rendering job needs of some files.
* `Wrote` — what a write does to a world.
* `Ends` — the ways in which a run ends.

Main results:

* `onlyReads_prepare` — a rendering is prepared by reading alone.
* `run_events` — logging goes on up to the first line that is not taken.
* `ends_perform` — the ways in which a run ends.
* `run_execute` — a run that fails tells why.
-/

namespace HeaderFacts

variable {σ : Type}

/-! ## Steps that only read -/

/-- A step of a run comes to a result and leaves the world as it is. -/
def OnlyReads {α : Type} (step : RunM (StateM (World σ)) α) (w : World σ)
    (result : Except Failure α) : Prop :=
  step.run.run w = (result, w)

theorem run_bind {α β : Type} {w : World σ} (step : RunM (StateM (World σ)) α)
    (rest : α → RunM (StateM (World σ)) β) :
    (step >>= rest).run.run w =
      match step.run.run w with
      | (.ok x, w') => (rest x).run.run w'
      | (.error failure, w') => (.error failure, w') := by
  rw [ExceptT.run_bind, StateT.run_bind]
  rcases step.run.run w with ⟨_ | _, w'⟩ <;> rfl

theorem run_lift {α : Type} (step : StateM (World σ) α) (w : World σ) :
    (ExceptT.lift step : RunM (StateM (World σ)) α).run.run w =
      (.ok (step.run w).1, (step.run w).2) := rfl

section OnlyReads

variable {α β ε : Type} {w : World σ}

theorem onlyReads_pure (x : α) : OnlyReads (pure x) w (.ok x) := by
  rfl

theorem onlyReads_stage (result : Except ε α) (failure : ε → Failure) :
    OnlyReads (stage result failure) w (result.mapError failure) := by
  rfl

theorem onlyReads_lift {step : StateM (World σ) α} {x : α} (h : step.run w = (x, w)) :
    OnlyReads (ExceptT.lift step) w (.ok x) := by
  show (Except.ok <$> step).run w = (Except.ok x, w)
  rw [StateT.run_map, h]
  rfl

/-- Two steps that only read make one that only reads. -/
theorem onlyReads_bind {step : RunM (StateM (World σ)) α} {rest : α → RunM (StateM (World σ)) β}
    {result : Except Failure α} {results : α → Except Failure β} (hStep : OnlyReads step w result)
    (hRest : ∀ x, OnlyReads (rest x) w (results x)) :
    OnlyReads (step >>= rest) w (result >>= results) := by
  rw [OnlyReads, run_bind, hStep]
  cases result with
  | error failure => rfl
  | ok x => exact hRest x

/-- A step with a known result can be left out. -/
theorem onlyReads_after {step : RunM (StateM (World σ)) α} {rest : α → RunM (StateM (World σ)) β}
    {x : α} {result : Except Failure β} (hStep : OnlyReads step w (.ok x))
    (hRest : OnlyReads (rest x) w result) : OnlyReads (step >>= rest) w result := by
  rw [OnlyReads, run_bind, hStep]
  exact hRest

theorem onlyReads_mapM {step : α → RunM (StateM (World σ)) β} {result : α → β}
    (hStep : ∀ x, OnlyReads (step x) w (.ok (result x))) (l : List α) :
    OnlyReads (l.mapM step) w (.ok (l.map result)) := by
  induction l with
  | nil => exact onlyReads_pure []
  | cons x rest ih =>
    rw [List.mapM_cons]
    exact onlyReads_after (hStep x) (onlyReads_after ih (onlyReads_pure _))

end OnlyReads

/-! ## The stages of a rendering -/

/-- The engine of a configuration and a dump, unless a definition of `-A` is malformed. -/
def Config.engine (config : Config) (dump : Dump) : Except ExtractionError Engine :=
  Engine.ofConfig ({ dump, includePaths := config.includePaths } : Catalog).openSession config

namespace FileSystem

variable (disk : FileSystem σ) (tools : Tools) (files : σ) (job : RenderJob)

/-- The content of a configuration file, whose name may leave out the extension. -/
def configFile (path : String) : FileContent :=
  if (disk.file? files path).isSome then disk.read files path
  else if (disk.file? files (withExtension path)).isSome then disk.read files (withExtension path)
  else .error .missing

/-- The configuration of a job. -/
def configFor : Except String Config :=
  tools.loadConfig (job.config.toList.map (disk.configFile files)) job.overrides

/-- The dump of a job. -/
def dumpFor : Except QueryError Dump :=
  Dump.load job.dump (disk.read files job.dump) tools.parseDump

/-- The text of the template of a job. -/
def sourceFor : Except FileFault String :=
  textOf (disk.read files job.template)

/-- The engine for a job and the text of its template. -/
def preparation : Except Failure (Engine × String) := do
  let config ← (disk.configFor tools files job).mapError .config
  let dump ← (disk.dumpFor tools files job).mapError .dump
  let engine ← (config.engine dump).mapError .largeFile
  let source ← (disk.sourceFor files job).mapError fun fault =>
    .template job.template (.unreadable job.template fault.message)
  return (engine, source)

end FileSystem

section Reading

variable {disk : FileSystem σ} {tools : Tools} {logger : Logger}

theorem onlyReads_read (w : World σ) (path : String) :
    OnlyReads (ExceptT.lift ((World.machine disk logger).read path)) w
      (.ok (disk.read w.files path)) :=
  onlyReads_lift rfl

theorem run_readConfig (w : World σ) (path : String) :
    (readConfig (World.machine disk logger) path).run w = (disk.configFile w.files path, w) := by
  have hFile (name : String) : ((World.machine disk logger).isFile name).run w =
      ((disk.file? w.files name).isSome, w) := rfl
  rw [readConfig, StateT.run_bind, hFile, FileSystem.configFile]
  cases (disk.file? w.files path).isSome with
  | true => rfl
  | false =>
    show (((World.machine disk logger).isFile (withExtension path) >>= _).run w) = _
    rw [StateT.run_bind, hFile]
    cases (disk.file? w.files (withExtension path)).isSome <;> rfl

theorem onlyReads_loadConfig (w : World σ) (job : RenderJob) :
    OnlyReads (job.loadConfig (World.machine disk logger) tools) w
      ((disk.configFor tools w.files job).mapError .config) := by
  have hFiles : OnlyReads
      (job.config.toList.mapM fun path =>
        ExceptT.lift (readConfig (World.machine disk logger) path)) w
      (.ok (job.config.toList.map (disk.configFile w.files))) :=
    onlyReads_mapM (fun path => onlyReads_lift (run_readConfig w path)) _
  exact onlyReads_after hFiles (onlyReads_stage _ _)

/-- A rendering is prepared by reading alone. -/
theorem onlyReads_prepare (w : World σ) (job : RenderJob) :
    OnlyReads (job.prepare (World.machine disk logger) tools) w
      (disk.preparation tools w.files job) := by
  refine onlyReads_bind (onlyReads_loadConfig w job) fun config => ?_
  refine onlyReads_after (onlyReads_read w job.dump) ?_
  refine onlyReads_bind (onlyReads_stage _ _) fun dump => ?_
  refine onlyReads_bind (onlyReads_stage _ _) fun engine => ?_
  refine onlyReads_after (onlyReads_read w job.template) ?_
  refine onlyReads_bind (onlyReads_stage _ _) fun source => ?_
  exact onlyReads_pure _

end Reading

/-! ## Steps that only log -/

/-- A world in which only the error output has gone on: by a text, if all of it has been taken. -/
structure Murmured (w : World σ) (text : String) (taken : Bool) (w' : World σ) : Prop where
  files : w'.files = w.files
  stdout : w'.stdout = w.stdout
  open_iff : w'.stderr.Open ↔ w.stderr.Open
  taken_of_open : w.stderr.Open → taken = true
  shown : taken = true → w'.stderr.shown = w.stderr.shown ++ text

namespace Murmured

variable {w w' w'' : World σ} {text text' : String} {taken : Bool}

/-- A text can be said in two parts. -/
theorem trans (h : Murmured w text true w') (h' : Murmured w' text' taken w'') :
    Murmured w (text ++ text') taken w'' where
  files := h'.files.trans h.files
  stdout := h'.stdout.trans h.stdout
  open_iff := h'.open_iff.trans h.open_iff
  taken_of_open hOpen := h'.taken_of_open (h.open_iff.2 hOpen)
  shown hTaken := by rw [h'.shown hTaken, h.shown rfl, String.append_assoc]

theorem complain (w : World σ) (text : String) :
    Murmured w text (w.complain text).1 (w.complain text).2 where
  files := rfl
  stdout := rfl
  open_iff := OutStream.open_put_iff text
  taken_of_open hOpen := congrArg Prod.fst (OutStream.put_of_open hOpen text)
  shown hTaken := OutStream.shown_of_put hTaken

theorem log (logger : Logger) (w : World σ) (event : LogEvent) :
    Murmured w (logger.line w.logged event) (w.log logger event).1 (w.log logger event).2 := by
  have hSaid := complain w (logger.line w.logged event)
  exact ⟨hSaid.files, hSaid.stdout, hSaid.open_iff, hSaid.taken_of_open, hSaid.shown⟩

end Murmured

/-- Whether a stream has taken a text. -/
def heard (name : String) : Bool → Except Failure Unit
  | true => .ok ()
  | false => .error (.stream name)

section Logging

theorem run_onStream (name : String) (step : StateM (World σ) Bool) (w : World σ) :
    (onStream name step).run.run w = (heard name (step.run w).1, (step.run w).2) := by
  show ((ExceptT.lift step >>= fun taken => if taken = true then _ else _).run.run w) = _
  rw [run_bind, run_lift]
  cases (step.run w).1 <;> rfl

variable (disk : FileSystem σ) (logger : Logger)

/-- Events are logged up to the first whose line is not taken. -/
theorem run_events (w : World σ) (events : List LogEvent) :
    ∃ taken w', Murmured w (logger.lines w.logged events) taken w' ∧
      (logAll (World.machine disk logger) events).run.run w = (heard "stderr" taken, w') := by
  induction events generalizing w with
  | nil =>
    refine ⟨true, w, ⟨rfl, rfl, .rfl, fun _ => rfl, fun _ => ?_⟩, rfl⟩
    exact (String.append_empty).symm
  | cons event rest ih =>
    have hSaid := Murmured.log logger w event
    have hStep : (onStream "stderr" ((World.machine disk logger).log event)).run.run w =
        (heard "stderr" (w.log logger event).1, (w.log logger event).2) := run_onStream _ _ w
    have hRest : logAll (World.machine disk logger) (event :: rest) =
        (onStream "stderr" ((World.machine disk logger).log event) >>= fun _ =>
          logAll (World.machine disk logger) rest) := rfl
    rw [hRest, run_bind, hStep]
    -- a line that is not taken ends the run, however many events are left
    cases hTaken : (w.log logger event).1 with
    | false =>
      rw [hTaken] at hSaid
      refine ⟨false, _, ⟨hSaid.files, hSaid.stdout, hSaid.open_iff, hSaid.taken_of_open, ?_⟩, rfl⟩
      exact nofun
    | true =>
      rw [hTaken] at hSaid
      obtain ⟨taken, w', hMore, hRun⟩ := ih (w.log logger event).2
      exact ⟨taken, w', hSaid.trans hMore, hRun⟩

end Logging

/-! ## What a write does -/

/-- What writing a text to a path comes to, and the world after it. -/
inductive Wrote (disk : FileSystem σ) (w : World σ) (path text : String) :
    Except FileFault Unit → World σ → Prop
  | refused {fault} (hTo : disk.write w.files path text = .error fault) :
      Wrote disk w path text (.error fault) w
  | file {file files} (hTo : disk.write w.files path text = .ok (.file file files)) :
      Wrote disk w path text (.ok ()) { w with files }
  | stdout (hTo : disk.write w.files path text = .ok .stdout)
      (hTaken : (w.stdout.put text).1 = true) :
      Wrote disk w path text (.ok ()) { w with stdout := (w.stdout.put text).2 }
  | stderr (hTo : disk.write w.files path text = .ok .stderr)
      (hTaken : (w.stderr.put text).1 = true) :
      Wrote disk w path text (.ok ()) { w with stderr := (w.stderr.put text).2 }
  | nowhere (hTo : disk.write w.files path text = .ok .nowhere) : Wrote disk w path text (.ok ()) w
  /-- The path leads to a stream that does not take the text. -/
  | full (hBroken : ¬ (w.stdout.Open ∧ w.stderr.Open)) : Wrote disk w path text (.error .full) w

theorem not_open_of_not_taken {k : OutStream} {text : String} (h : (k.put text).1 = false) :
    ¬ k.Open := by
  intro hOpen
  rw [OutStream.put_of_open hOpen] at h
  cases h

theorem wrote (disk : FileSystem σ) (w : World σ) (path text : String) :
    Wrote disk w path text (w.write disk path text).1 (w.write disk path text).2 := by
  unfold World.write
  cases hTo : disk.write w.files path text with
  | error fault => exact .refused hTo
  | ok destination =>
    cases destination with
    | file file files => exact .file hTo
    | nowhere => exact .nowhere hTo
    | stdout =>
      dsimp only
      cases hTaken : (w.stdout.put text).1 with
      | true => exact .stdout hTo hTaken
      | false => exact .full fun hOpen => not_open_of_not_taken hTaken hOpen.1
    | stderr =>
      dsimp only
      cases hTaken : (w.stderr.put text).1 with
      | true => exact .stderr hTo hTaken
      | false => exact .full fun hOpen => not_open_of_not_taken hTaken hOpen.2

/-! ## Ways in which a run ends -/

/-- How a run ends: with a result, and with the world as it then is. -/
inductive Ends (disk : FileSystem σ) (tools : Tools) (logger : Logger) (args : List String)
    (w : World σ) : Except Failure Unit → World σ → Prop
  | unlogged {text w'} (hSaid : Murmured w text false w') :
      Ends disk tools logger args w (.error (.stream "stderr")) w'
  | refused {failure w'} (hAsked : tools.invocation args = .error failure)
      (hSaid : Murmured w logger.opening true w') :
      Ends disk tools logger args w (.error failure) w'
  | told {text w'} (hAsked : tools.invocation args = .ok (.told text))
      (hSaid : Murmured w logger.opening true w') :
      Ends disk tools logger args w (.ok ()) (w'.print text).2
  | listed {w'} (hAsked : tools.invocation args = .ok .listModules)
      (hSaid : Murmured w logger.opening true w') :
      Ends disk tools logger args w (heard "stdout" (w'.print (listText .standard)).1)
        (w'.print (listText .standard)).2
  | unprepared {job failure w'} (hAsked : tools.invocation args = .ok (.render job))
      (hFailed : disk.preparation tools w.files job = .error failure)
      (hSaid : Murmured w logger.opening true w') :
      Ends disk tools logger args w (.error failure) w'
  | unrendered {job engine source cause w'} (hAsked : tools.invocation args = .ok (.render job))
      (hReady : disk.preparation tools w.files job = .ok (engine, source))
      (hFailed : engine.render source = .error cause)
      (hSaid : Murmured w (logger.text (engine.events source)) true w') :
      Ends disk tools logger args w (.error (.template job.template cause)) w'
  | printed {job engine source text w'} (hAsked : tools.invocation args = .ok (.render job))
      (hReady : disk.preparation tools w.files job = .ok (engine, source))
      (hText : engine.render source = .ok text) (hOutput : job.output = none)
      (hSaid : Murmured w (logger.text (engine.events source)) true w') :
      Ends disk tools logger args w (heard "stdout" (w'.print text).1) (w'.print text).2
  | written {job engine source text path w' result after}
      (hAsked : tools.invocation args = .ok (.render job))
      (hReady : disk.preparation tools w.files job = .ok (engine, source))
      (hText : engine.render source = .ok text) (hOutput : job.output = some path)
      (hSaid : Murmured w (logger.text (engine.events source)) true w')
      (hWrote : Wrote disk w' path text result after) :
      Ends disk tools logger args w (result.mapError (.output path)) after

section Running

variable (disk : FileSystem σ) (tools : Tools) (logger : Logger)

section Jobs

variable {disk tools logger} {args : List String} {job : RenderJob} {w w' : World σ}

/-- The ways in which a job ends. -/
theorem ends_run (hAsked : tools.invocation args = .ok (.render job))
    (hOpened : Murmured w logger.opening true w') (hStart : w'.logged = 0) :
    ∃ result after, (job.run (World.machine disk logger) tools).run.run w' = (result, after) ∧
      Ends disk tools logger args w result after := by
  have hPrepare : OnlyReads (job.prepare (World.machine disk logger) tools) w'
      (disk.preparation tools w.files job) := hOpened.files ▸ onlyReads_prepare w' job
  rw [RenderJob.run, run_bind, RenderJob.render, run_bind, hPrepare]
  cases hReady : disk.preparation tools w.files job with
  | error failure => exact ⟨_, _, rfl, .unprepared hAsked hReady hOpened⟩
  | ok prepared =>
    obtain ⟨engine, source⟩ := prepared
    -- the events of a rendering are logged before it is known whether it succeeds
    obtain ⟨taken, w'', hSaid, hRun⟩ := run_events disk logger w' (engine.events source)
    rw [hStart] at hSaid
    have hLog := hOpened.trans hSaid
    dsimp only
    rw [run_bind, hRun]
    cases taken with
    | false => exact ⟨_, _, rfl, .unlogged hLog⟩
    | true =>
      cases hText : engine.render source with
      | error cause => exact ⟨_, _, rfl, .unrendered hAsked hReady hText hLog⟩
      | ok text =>
        cases hOutput : job.output with
        | none =>
          refine ⟨_, _, run_onStream _ _ w'', ?_⟩
          exact .printed hAsked hReady hText hOutput hLog
        | some path =>
          refine ⟨_, _, ?_, .written hAsked hReady hText hOutput hLog (wrote disk w'' path text)⟩
          show (ExceptT.lift ((World.machine disk logger).write path text) >>= fun result =>
            stage result (.output path)).run.run w'' = _
          rw [run_bind, run_lift]
          rfl

end Jobs

/-- The ways in which a run ends. -/
theorem ends_perform (args : List String) (w : World σ) (hStart : w.logged = 0) :
    ∃ result after, (perform (World.machine disk logger) tools args).run.run w = (result, after) ∧
      Ends disk tools logger args w result after := by
  obtain ⟨taken, w', hOpening, hSaid, hNone⟩ : ∃ taken w',
      (World.machine disk logger).openLog.run w = (taken, w') ∧
        Murmured w logger.opening taken w' ∧ w'.logged = 0 :=
    ⟨_, _, rfl, .complain w logger.opening, hStart⟩
  rw [perform, run_bind, run_onStream, hOpening]
  cases taken with
  | false => exact ⟨_, _, rfl, .unlogged hSaid⟩
  | true =>
    dsimp only [heard]
    rw [run_bind, onlyReads_stage (w := w') (tools.invocation args) id]
    cases hAsked : tools.invocation args with
    | error failure => exact ⟨_, _, rfl, .refused hAsked hSaid⟩
    | ok asked =>
      cases asked with
      | told text =>
        refine ⟨_, _, ?_, .told hAsked hSaid⟩
        show (ExceptT.lift ((World.machine disk logger).print text) >>= fun _ =>
          (pure () : RunM (StateM (World σ)) Unit)).run.run w' = _
        rw [run_bind, run_lift]
        rfl
      | listModules => exact ⟨_, _, run_onStream _ _ w', .listed hAsked hSaid⟩
      | render job => exact ends_run hAsked hSaid hNone

/-- A run that fails tells why. -/
theorem run_execute (args : List String) (w : World σ) :
    (execute (World.machine disk logger) tools args).run w =
      match (perform (World.machine disk logger) tools args).run.run w with
      | (.ok (), after) => (0, after)
      | (.error failure, after) =>
        (if (after.complain failure.message).1 then failure.code else failure.unheardCode,
          (after.complain failure.message).2) := by
  rw [execute, StateT.run_bind]
  rcases (perform (World.machine disk logger) tools args).run.run w with ⟨_ | _, after⟩
  · rename_i failure
    show (((World.machine disk logger).complain failure.message >>= _).run after) = _
    rw [StateT.run_bind]
    show ((if (after.complain failure.message).1 = true then _ else _ : StateM (World σ) UInt32).run
      (after.complain failure.message).2) = _
    dsimp only
    cases (after.complain failure.message).1 <;> rfl
  · rfl

end Running

end HeaderFacts

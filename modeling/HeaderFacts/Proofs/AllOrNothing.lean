import HeaderFacts.Proofs.RunEndings

/-!
# Runs are all or nothing

A run reads files until its whole text is there, and only then writes. So a run that fails leaves the
files as they were and shows nothing but its log and its message, and a rendering that succeeds puts
its text into one place: where `-o` leads, or else the standard output. The exit code is that of the
first stage that fails.

That is so for every file system, whatever the tools make of arguments, settings and dumps, and
whatever is logged. But it takes streams that take what is written to them: a run that cannot print
its text, its log or its message ends in a panic.

Main definitions:

* `FileSystem.Renders` — the text of a job, from its configuration, dump and template.
* `FileSystem.exitCode` — the exit code of a run, stage by stage.
* `Untouched` — a world in which a run has done nothing but log.
* `Placed` — a text that has been put into one place.

Main results:

* `Ends.untouched`, `Ends.code_eq`, `Ends.placed` — what each way to end comes to.
* `execute_all_or_nothing` — what a run shows and what it leaves behind.
* `execute_not_all_or_nothing` — a redirected text, a log that was asked for, and broken streams.
* `outcome_runCommand` — what a run shows is what the program shows.
-/

namespace HeaderFacts

variable {σ : Type}

/-! ## The stages of a rendering -/

namespace FileSystem

variable (disk : FileSystem σ) (tools : Tools) (files : σ) (job : RenderJob)

/-- The text of a job and what is told of its rendering: its configuration and its dump can be loaded,
the definitions of `-A` are well formed, and the template can be read and renders to the text. -/
def Renders (text : String) (events : List LogEvent) : Prop :=
  ∃ config dump engine source, disk.configFor tools files job = .ok config ∧
    disk.dumpFor tools files job = .ok dump ∧ config.engine dump = .ok engine ∧
      disk.sourceFor files job = .ok source ∧ engine.render source = .ok text ∧
        engine.events source = events

/-- The exit code of a job whose text is there. -/
def outputCode (text : String) : UInt32 :=
  match job.output with
  | none => 0
  | some path =>
    match disk.write files path text with
    | .error _ => 1
    | .ok _ => 0

/-- The exit code of a job, stage by stage. -/
def jobCode : UInt32 :=
  match disk.configFor tools files job with
  | .error _ => 2
  | .ok config =>
    match disk.dumpFor tools files job with
    | .error _ => 1
    | .ok dump =>
      match config.engine dump with
      | .error _ => 2
      | .ok engine =>
        match disk.sourceFor files job with
        | .error _ => 1
        | .ok source =>
          match engine.render source with
          | .error _ => 1
          | .ok text => disk.outputCode files job text

/-- The exit code of a run. Whoever asks for help or for a list gets it. -/
def exitCode (args : List String) : UInt32 :=
  match tools.invocation args with
  | .error _ => 2
  | .ok (.render job) => disk.jobCode tools files job
  | .ok _ => 0

variable {disk tools files job}

theorem renders_of_preparation {engine : Engine} {source text : String}
    (h : disk.preparation tools files job = .ok (engine, source))
    (hText : engine.render source = .ok text) :
    disk.Renders tools files job text (engine.events source) := by
  obtain ⟨config, hConfig, h⟩ := ok_of_bind h
  obtain ⟨dump, hDump, h⟩ := ok_of_bind h
  obtain ⟨engine, hEngine, h⟩ := ok_of_bind h
  obtain ⟨source, hSource, h⟩ := ok_of_bind h
  cases h
  exact ⟨config, dump, engine, source, ok_of_mapError hConfig, ok_of_mapError hDump,
    ok_of_mapError hEngine, ok_of_mapError hSource, hText, rfl⟩

/-- The first stage that fails decides the exit code. -/
theorem jobCode_eq :
    disk.jobCode tools files job =
      match disk.preparation tools files job with
      | .error failure => failure.code
      | .ok (engine, source) =>
        match engine.render source with
        | .error _ => 1
        | .ok text => disk.outputCode files job text := by
  unfold jobCode preparation
  simp only [Except.mapError, bind, Except.bind]
  -- once a stage has failed, neither side looks at the later ones
  cases disk.configFor tools files job with
  | error reason => rfl
  | ok config =>
    dsimp only
    cases disk.dumpFor tools files job with
    | error cause => rfl
    | ok dump =>
      dsimp only
      cases config.engine dump with
      | error cause => rfl
      | ok engine =>
        dsimp only
        cases disk.sourceFor files job <;> rfl

end FileSystem

/-! ## What a run shows -/

namespace Failure

theorem code_ne_zero (failure : Failure) : failure.code ≠ 0 := by
  cases failure <;> simp [code]

theorem unheardCode_ne_zero (failure : Failure) : failure.unheardCode ≠ 0 := by
  cases failure <;> simp [unheardCode]

/-- No failure goes without a word. -/
theorem message_ne_empty (failure : Failure) : failure.message ≠ "" := by
  cases failure with
  | usage report => exact report.ne_empty
  | incomplete => decide
  | _ => exact line_ne_empty _

end Failure

section Ends

variable {disk : FileSystem σ} {tools : Tools} {logger : Logger} {args : List String}
variable {w after : World σ} {result : Except Failure Unit}

theorem of_heard_error {name : String} {taken : Bool} {failure : Failure}
    (h : heard name taken = .error failure) : taken = false := by
  cases taken with
  | true => cases h
  | false => rfl

/-- Before it tells why, a run that fails has written no file and said nothing on open streams but
what is logged. -/
structure Untouched (logger : Logger) (w after : World σ) : Prop where
  files : after.files = w.files
  stdout : w.stdout.Open → after.stdout = w.stdout
  open_iff : after.stderr.Open ↔ w.stderr.Open
  quiet : w.stderr.Open → logger.Quiet → after.stderr.shown = w.stderr.shown

theorem Murmured.untouched {text : String} (h : Murmured w text true after)
    (hText : logger.Quiet → text = "") : Untouched logger w after where
  files := h.files
  stdout _ := h.stdout
  open_iff := h.open_iff
  quiet _ hQuiet := by rw [h.shown rfl, hText hQuiet, String.append_empty]

/-- What is logged is not taken by a broken stream only. -/
theorem Murmured.untouched_of_not_taken {text : String} (h : Murmured w text false after) :
    Untouched logger w after where
  files := h.files
  stdout _ := h.stdout
  open_iff := h.open_iff
  quiet hOpen := absurd (h.taken_of_open hOpen) Bool.false_ne_true

/-- Printing fails on a broken stream only. -/
theorem Murmured.untouched_print {said text : String} {w' : World σ} {failure : Failure}
    (h : Murmured w said true w') (hSaid : logger.Quiet → said = "")
    (hFailed : heard "stdout" (w'.print text).1 = .error failure) :
    Untouched logger w (w'.print text).2 := by
  have hBefore := h.untouched hSaid
  refine ⟨hBefore.files, fun hOpen => ?_, hBefore.open_iff, hBefore.quiet⟩
  have hTaken : (w'.stdout.print text).1 = false := of_heard_error hFailed
  rw [h.stdout, OutStream.print_of_open hOpen] at hTaken
  cases hTaken

theorem Ends.untouched {failure : Failure} (h : Ends disk tools logger args w result after)
    (hResult : result = .error failure) : Untouched logger w after := by
  have hOpening : logger.Quiet → logger.opening = "" := Logger.Quiet.opening
  have hLog (events : List LogEvent) : logger.Quiet → logger.text events = "" :=
    fun hQuiet => hQuiet.text_eq events
  cases h with
  | unlogged hSaid => exact hSaid.untouched_of_not_taken
  | refused _ hSaid => exact hSaid.untouched hOpening
  | told => cases hResult
  | listed _ hSaid => exact hSaid.untouched_print hOpening hResult
  | unprepared _ _ hSaid => exact hSaid.untouched hOpening
  | unrendered _ _ _ hSaid => exact hSaid.untouched (hLog _)
  | printed _ _ _ _ hSaid => exact hSaid.untouched_print (hLog _) hResult
  | written _ _ _ _ hSaid hWrote =>
    -- a write that fails changes nothing
    cases hWrote with
    | refused | full => exact hSaid.untouched (hLog _)
    | file | stdout | stderr | nowhere => cases hResult

/-! ### Exit codes -/

/-- The exit code of a run whose message is heard. -/
def codeOf : Except Failure Unit → UInt32
  | .ok () => 0
  | .error failure => failure.code

theorem code_of_invocation {failure : Failure} (h : tools.invocation args = .error failure) :
    failure.code = 2 := by
  unfold Tools.invocation at h
  split at h
  · cases h
  · cases h; rfl
  · unfold CommandLine.invocation at h
    split at h
    · cases h
    · split at h
      · cases h
      · cases h; rfl

/-- With open streams, a text is put at the end of a path unless the file system fails. -/
theorem Wrote.code_eq {job : RenderJob} {path text : String} {result : Except FileFault Unit}
    (h : Wrote disk w path text result after) (hOut : w.stdout.Open) (hErr : w.stderr.Open)
    (hOutput : job.output = some path) :
    codeOf (result.mapError (.output path)) = disk.outputCode w.files job text := by
  unfold FileSystem.outputCode
  rw [hOutput]
  dsimp only
  cases h with
  | full hBroken => exact absurd ⟨hOut, hErr⟩ hBroken
  | _ hTo => rw [hTo]; rfl

/-- With open streams, the exit code is that of the first stage that fails. -/
theorem Ends.code_eq (h : Ends disk tools logger args w result after) (hOut : w.stdout.Open)
    (hErr : w.stderr.Open) : codeOf result = disk.exitCode tools w.files args := by
  have hJob {job : RenderJob} (hAsked : tools.invocation args = .ok (.render job)) :
      disk.exitCode tools w.files args = disk.jobCode tools w.files job := by
    rw [FileSystem.exitCode, hAsked]
  have hHeard {said text : String} {w' : World σ} (hSaid : Murmured w said true w') :
      codeOf (heard "stdout" (w'.print text).1) = 0 := by
    rw [World.print, hSaid.stdout, OutStream.print_of_open hOut]
    rfl
  cases h with
  | unlogged hSaid => exact absurd (hSaid.taken_of_open hErr) Bool.false_ne_true
  | refused hAsked =>
    rw [FileSystem.exitCode, hAsked]
    exact code_of_invocation hAsked
  | told hAsked =>
    rw [FileSystem.exitCode, hAsked]
    rfl
  | listed hAsked hSaid =>
    rw [FileSystem.exitCode, hAsked]
    exact hHeard hSaid
  | unprepared hAsked hFailed =>
    rw [hJob hAsked, FileSystem.jobCode_eq, hFailed]
    rfl
  | unrendered hAsked hReady hFailed =>
    rw [hJob hAsked, FileSystem.jobCode_eq, hReady]
    simp only [hFailed]
    rfl
  | printed hAsked hReady hText hOutput hSaid =>
    rw [hJob hAsked, FileSystem.jobCode_eq, hReady]
    simp only [hText, FileSystem.outputCode, hOutput]
    exact hHeard hSaid
  | written hAsked hReady hText hOutput hSaid hWrote =>
    rw [hJob hAsked, FileSystem.jobCode_eq, hReady]
    simp only [hText]
    rw [← hSaid.files]
    exact hWrote.code_eq (hSaid.stdout ▸ hOut) (hSaid.open_iff.2 hErr) hOutput

/-! ### Rendered texts -/

/-- A text that has been put into one place: where `-o` leads, or else the standard output. The log
is on the error output. -/
def Placed (disk : FileSystem σ) (job : RenderJob) (text log : String) (before after : World σ) :
    Prop :=
  match job.output with
  | none =>
    after.files = before.files ∧ after.stderr.shown = log ∧
      (before.stdout.Open → after.stdout.shown = text)
  | some path =>
    match disk.write before.files path text with
    | .error _ => False
    | .ok (.file file _) =>
      disk.file? after.files path = some file ∧ disk.bytes? after.files file = some text.toUTF8 ∧
        (∀ other, other ≠ file → disk.bytes? after.files other = disk.bytes? before.files other) ∧
          after.stdout.shown = "" ∧ after.stderr.shown = log
    | .ok .stdout =>
      after.files = before.files ∧ after.stdout.shown = text ∧ after.stderr.shown = log
    | .ok .stderr =>
      after.files = before.files ∧ after.stdout.shown = "" ∧ after.stderr.shown = log ++ text
    | .ok .nowhere =>
      after.files = before.files ∧ after.stdout.shown = "" ∧ after.stderr.shown = log

/-- A text that is written is in the one place to which its path leads. -/
theorem Wrote.placed {job : RenderJob} {path text log : String} {w' : World σ}
    (h : Wrote disk w' path text (.ok ()) after) (hSaid : Murmured w log true w')
    (hOut : w.stdout.shown = "") (hErr : w.stderr.shown = "") (hOutput : job.output = some path) :
    Placed disk job text log w after := by
  have hLog : w'.stderr.shown = log := by rw [hSaid.shown rfl, hErr, String.empty_append]
  have hNothing : w'.stdout.shown = "" := by rw [hSaid.stdout, hOut]
  unfold Placed
  rw [hOutput, ← hSaid.files]
  dsimp only
  cases h with
  | file hTo =>
    rw [hTo]
    exact ⟨disk.file?_of_write hTo, disk.bytes?_of_write hTo,
      fun other => disk.bytes?_of_write_of_ne hTo, hNothing, hLog⟩
  | stdout hTo hTaken =>
    rw [hTo]
    have hText := OutStream.shown_of_put hTaken
    rw [hNothing, String.empty_append] at hText
    exact ⟨rfl, hText, hLog⟩
  | stderr hTo hTaken =>
    rw [hTo]
    have hText := OutStream.shown_of_put hTaken
    rw [hLog] at hText
    exact ⟨rfl, hNothing, hText⟩
  | nowhere hTo =>
    rw [hTo]
    exact ⟨rfl, hNothing, hLog⟩

theorem Ends.placed {job : RenderJob} (h : Ends disk tools logger args w result after)
    (hResult : result = .ok ()) (hAsked : tools.invocation args = .ok (.render job))
    (hOut : w.stdout.shown = "") (hErr : w.stderr.shown = "") :
    ∃ text events, disk.Renders tools w.files job text events ∧
      Placed disk job text (logger.text events) w after := by
  have hOnly {other : RenderJob} (hOther : tools.invocation args = .ok (.render other)) :
      other = job := by
    rw [hAsked] at hOther
    cases hOther
    rfl
  cases h with
  | unlogged => cases hResult
  | refused => cases hResult
  | told hOther =>
    rw [hAsked] at hOther
    cases hOther
  | listed hOther =>
    rw [hAsked] at hOther
    cases hOther
  | unprepared => cases hResult
  | unrendered => cases hResult
  | @printed _ _ _ text w' hOther hReady hText hOutput hSaid =>
    obtain rfl := hOnly hOther
    refine ⟨_, _, FileSystem.renders_of_preparation hReady hText, ?_⟩
    rw [Placed, hOutput]
    refine ⟨hSaid.files, ?_, fun hOpen => ?_⟩
    · rw [World.print, hSaid.shown rfl, hErr, String.empty_append]
    · rw [World.print, hSaid.stdout, OutStream.print_of_open hOpen, hOut, String.empty_append]
  | written hOther hReady hText hOutput hSaid hWrote =>
    obtain rfl := hOnly hOther
    refine ⟨_, _, FileSystem.renders_of_preparation hReady hText, ?_⟩
    rw [ok_of_mapError hResult] at hWrote
    exact hWrote.placed hSaid hOut hErr hOutput

end Ends

/-- **All or nothing.** A run that fails leaves the files as they were and shows its message, and
nothing else but its log. A rendering that succeeds says nothing but its log, which is empty unless
one was asked for, and its text goes to the one place where `-o` leads, or else to the standard
output. The exit code is that of the first stage that fails. -/
theorem execute_all_or_nothing (disk : FileSystem σ) (tools : Tools) (logger : Logger) (files : σ)
    (outRoom errRoom : Option Nat) (args : List String) :
    let before : World σ := { files, stdout := { room := outRoom }, stderr := { room := errRoom } }
    let run := (execute (World.machine disk logger) tools args).run before
    let code := run.1
    let after := run.2
    (code ≠ 0 → after.files = files ∧ (before.stdout.Open → after.stdout.shown = "") ∧
      (before.stderr.Open → after.stderr.shown ≠ "")) ∧
    (∀ job, tools.invocation args = .ok (.render job) → code = 0 →
      ∃ text events, disk.Renders tools files job text events ∧
        Placed disk job text (logger.text events) before after ∧
          (logger.Quiet → logger.text events = "")) ∧
    (before.stdout.Open → before.stderr.Open → code = disk.exitCode tools files args) := by
  intro before run code after
  obtain ⟨result, ended, hRun, hEnds⟩ :=
    ends_perform disk tools logger args before rfl
  have hExecute : run = _ := run_execute disk tools logger args before
  rw [hRun] at hExecute
  -- how the run has ended tells what it has done; only a failure still has its message to tell
  cases result with
  | ok done =>
    have hCode : code = 0 := congrArg Prod.fst hExecute
    have hAfter : after = ended := congrArg Prod.snd hExecute
    refine ⟨fun hFailed => absurd hCode hFailed, fun job hAsked _ => ?_, fun hOut hErr => ?_⟩
    · obtain ⟨text, events, hRenders, hPlaced⟩ := hEnds.placed rfl hAsked rfl rfl
      exact ⟨text, events, hRenders, hAfter ▸ hPlaced, fun hQuiet => hQuiet.text_eq events⟩
    · exact hCode.trans (hEnds.code_eq hOut hErr)
  | error failure =>
    have hUntouched := hEnds.untouched rfl
    have hSaid := Murmured.complain ended failure.message
    have hCode : code = if (ended.complain failure.message).1 then failure.code
        else failure.unheardCode := congrArg Prod.fst hExecute
    have hAfter : after = (ended.complain failure.message).2 := congrArg Prod.snd hExecute
    have hFailed : code ≠ 0 := by
      rw [hCode]
      split
      · exact failure.code_ne_zero
      · exact failure.unheardCode_ne_zero
    have hHeard (hErr : before.stderr.Open) : (ended.complain failure.message).1 = true :=
      hSaid.taken_of_open (hUntouched.open_iff.2 hErr)
    rw [← hAfter] at hSaid
    refine ⟨fun _ => ⟨hSaid.files.trans hUntouched.files, fun hOut => ?_, fun hErr hEmpty => ?_⟩,
      fun job _ hDone => absurd hDone hFailed, fun hOut hErr => ?_⟩
    · rw [hSaid.stdout, hUntouched.stdout hOut]
    · rw [hSaid.shown (hHeard hErr), String.append_eq_empty_iff] at hEmpty
      exact failure.message_ne_empty hEmpty.2
    · rw [hCode, if_pos (hHeard hErr)]
      exact hEnds.code_eq hOut hErr

/-- A template that is rendered over an old output, and a dump that is not there. -/
theorem execute_all_or_nothing_output :
    let dumped := "\x7b\"target\": \"i686-unknown-linux-gnu\", \"headers\": \x7b\"t.h\": []\x7d\x7d"
    let t : FileTree := .ofList
      [("t.in", "a\n@@extract\nfingerprint t.h\n@@end\n".toUTF8), ("d.json", dumped.toUTF8),
        ("sub/out", "old\n".toUTF8)]
    let job : RenderJob :=
      { template := "sub/../t.in", dump := "d.json", output := some "/home/sub/out" }
    let run (dump : String) :=
      (execute (World.machine FileTree.disk .standard) .standard
        ["sub/../t.in", "--ast", dump, "-o", "/home/sub/out"]).run { files := t }
    (∃ text events, FileTree.disk.Renders .standard t job text events ∧
      Placed FileTree.disk job text "" { files := t } (run "d.json").2) ∧
        (run "gone.json").1 = 1 ∧ (run "gone.json").2.files = t := by
  intro dumped t job run
  have hAsked : Tools.standard.invocation ["sub/../t.in", "--ast", "d.json", "-o", "/home/sub/out"] =
      .ok (.render job) := by
    decide +kernel
  have hDone : (run "d.json").1 = 0 := by decide +kernel
  have hGone : (run "gone.json").1 = 1 := by decide +kernel
  obtain ⟨-, hPlaced, -⟩ := execute_all_or_nothing FileTree.disk .standard .standard t none none
    ["sub/../t.in", "--ast", "d.json", "-o", "/home/sub/out"]
  obtain ⟨text, events, hRenders, hPlaced, hQuiet⟩ := hPlaced job hAsked hDone
  rw [hQuiet Logger.quiet_standard] at hPlaced
  obtain ⟨hUntouched, -⟩ := execute_all_or_nothing FileTree.disk .standard .standard t none none
    ["sub/../t.in", "--ast", "gone.json", "-o", "/home/sub/out"]
  obtain ⟨hSame, -⟩ := hUntouched (by rw [show _ = (1 : UInt32) from hGone]; decide)
  exact ⟨⟨text, events, hRenders, hPlaced⟩, hGone, hSame⟩

/-- With `-o` the text may still go to the standard output, a log that was asked for makes itself
heard beside a text, and a stream that takes nothing ends a run in a panic: without its text on the
standard output, or without a word on the error output. -/
theorem execute_not_all_or_nothing :
    let t : FileTree := .ofList
      [("t.in", "a\n".toUTF8), ("d.json", "\x7b\"target\": \"i686-unknown-linux-gnu\"\x7d".toUTF8)]
    let told : LogEvent → String
      | .rendered _ _ => "INFO rendered template\n"
      | .directive _ _ => "DEBUG evaluating directive\n"
    let run (logger : Logger) (outRoom errRoom : Option Nat) (args : List String) :=
      (execute (World.machine FileTree.disk logger) .standard args).run
        { files := t, stdout := { room := outRoom }, stderr := { room := errRoom } }
    let job := ["t.in", "--ast", "d.json"]
    let redirected := run .standard none none (job ++ ["-o", "/dev/stdout"])
    let logged := run (.atLeast .info fun _ => told) none none job
    let unprinted := run .standard (some 0) none job
    let unheard := run .standard none (some 0) ["t.in", "--ast", "gone.json"]
    (redirected.1 = 0 ∧ redirected.2.stdout.shown = "a\n") ∧
      (logged.1 = 0 ∧ logged.2.stderr.shown = "INFO rendered template\n") ∧
        unprinted.1 = 101 ∧ (unheard.1 = 101 ∧ unheard.2.stderr.shown = "") := by
  decide +kernel

/-- What a run shows is what the program shows. -/
theorem outcome_runCommand (disk : FileSystem σ) (files : σ) (args : List String) :
    let run := (execute (World.machine disk .standard) .standard args).run { files }
    let result := (runCommand disk args).run.run files
    Outcome.ofResult result.1 =
        { code := run.1, stdout := run.2.stdout.shown, stderr := run.2.stderr.shown } ∧
      result.2 = run.2.files := by
  intro run result
  obtain ⟨ended, after, hRun, hEnds⟩ :=
    ends_perform disk .standard .standard args { files } rfl
  have hExecute : run = _ := run_execute disk .standard .standard args { files }
  have hResult : result =
      let ran := (perform (World.machine disk .standard) .standard args).run.run { files }
      (ran.1.map fun _ => { code := 0, stdout := ran.2.stdout.shown, stderr := ran.2.stderr.shown },
        ran.2.files) := rfl
  rw [hRun] at hExecute hResult
  rw [hResult, hExecute]
  cases ended with
  | ok done => exact ⟨rfl, rfl⟩
  | error failure =>
    have hUntouched := hEnds.untouched rfl
    have hErr : after.stderr.Open := hUntouched.open_iff.2 rfl
    have hSilent : after.stderr.shown = "" := hUntouched.quiet rfl Logger.quiet_standard
    have hSaid : after.complain failure.message =
        (true, { after with stderr := { after.stderr with shown := failure.message } }) := by
      rw [World.complain, OutStream.put_of_open hErr, hSilent, String.empty_append]
    have hOut : after.stdout.shown = "" := congrArg OutStream.shown (hUntouched.stdout rfl)
    dsimp only
    rw [hSaid]
    exact ⟨congrArg (Outcome.mk failure.code · failure.message) hOut.symm, rfl⟩

end HeaderFacts

import HeaderFacts.File.System
import HeaderFacts.Template.Log

/-!
# What a run deals with

The files of a machine and the two output streams of the program. A stream may be one that does not
take all that is written to it, such as a full disk or a pipe that nobody reads. The program learns
of that, but for the last line of the standard output: what follows the last line break is held back
until the run is over.

Main definitions:

* `OutStream` — an output stream.
* `Machine` — what a program can do, in any monad.
* `World` — files and streams as they are at some time of a run.
* `World.machine` — what a program can do to a world.

Main results:

* `OutStream.put_of_open`, `OutStream.print_of_open` — an open stream takes a text.
* `OutStream.shown_of_put` — a text that has been taken is shown.
-/

namespace HeaderFacts

/-! ## Streams -/

/-- An output stream. -/
structure OutStream where
  /-- What it has taken. -/
  shown : String := ""
  /-- How many more characters it takes, if not any number. -/
  room : Option Nat := none
  deriving DecidableEq, Repr

namespace OutStream

/-- A stream that takes all that is written to it. -/
def Open (k : OutStream) : Prop := k.room = none

/-- Writes a text to a stream; whether it has taken all of it, and the stream after that. -/
def put (k : OutStream) (text : String) : Bool × OutStream :=
  match k.room with
  | none => (true, { k with shown := k.shown ++ text })
  | some n =>
    (decide (text.length ≤ n),
      { shown := k.shown ++ String.ofList (text.toList.take n), room := some (n - text.length) })

/-- How many bytes of a last line can be held back. -/
def bufferSize : Nat := 1024

/-- What follows the last line break. -/
def lastLine (text : List Char) : List Char :=
  (text.reverse.takeWhile (· != '\n')).reverse

/-- Writes a text to a stream that passes on whole lines. Whether the rest is taken is not learnt,
since it is passed on when the run is over, unless it is too long to be held back. -/
def print (k : OutStream) (text : String) : Bool × OutStream :=
  let rest := String.ofList (lastLine text.toList)
  let lines := String.ofList (text.toList.take (text.length - rest.length))
  let (taken, k) := k.put lines
  if !taken then (false, k)
  else
    let (taken, k) := k.put rest
    (taken || decide (rest.utf8ByteSize < bufferSize), k)

variable {k : OutStream}

/-- An open stream takes a text. -/
theorem put_of_open (h : k.Open) (text : String) :
    k.put text = (true, { k with shown := k.shown ++ text }) := by
  rw [put, h]

theorem open_put_iff (text : String) : (k.put text).2.Open ↔ k.Open := by
  unfold put Open
  cases hRoom : k.room with
  | none => simp
  | some n => simp

/-- A text that has been taken is shown. -/
theorem shown_of_put {text : String} (h : (k.put text).1 = true) :
    (k.put text).2.shown = k.shown ++ text := by
  unfold put at h ⊢
  cases hRoom : k.room with
  | none => rfl
  | some n =>
    rw [hRoom] at h
    have hFits : text.toList.length ≤ n := by simpa [String.length_toList] using h
    simp [List.take_of_length_le hFits]

theorem lastLine_suffix (text : List Char) : lastLine text <:+ text := by
  have hPrefix := List.takeWhile_prefix (· != '\n') (l := text.reverse)
  simpa [lastLine] using List.reverse_suffix.2 hPrefix

/-- An open stream takes a text line by line. -/
theorem print_of_open (h : k.Open) (text : String) :
    k.print text = (true, { k with shown := k.shown ++ text }) := by
  obtain ⟨lines, hText⟩ := lastLine_suffix text.toList
  have hLines : text.toList.take (text.length - (lastLine text.toList).length) = lines := by
    rw [← String.length_toList, ← congrArg List.length hText, List.length_append,
      Nat.add_sub_cancel]
    exact hText ▸ List.take_left' rfl
  have hOpen : ({ k with shown := k.shown ++ String.ofList lines } : OutStream).Open := h
  have hJoin : String.ofList lines ++ String.ofList (lastLine text.toList) = text := by
    rw [← String.ofList_append, hText, String.ofList_toList]
  simp only [print, String.length_ofList, hLines, put_of_open h, put_of_open hOpen,
    String.append_assoc, hJoin]
  rfl

end OutStream

/-! ## Machines -/

/-- What a program can do. What may fail without a fault says whether it has been done. -/
structure Machine (m : Type → Type) where
  isFile : String → m Bool
  read : String → m FileContent
  write : String → String → m (Except FileFault Unit)
  /-- Writes to the standard output. -/
  print : String → m Bool
  /-- Writes to the error output. -/
  complain : String → m Bool
  /-- Writes what the logger says of itself. -/
  openLog : m Bool
  log : LogEvent → m Bool

/-- Files and streams. -/
structure World (σ : Type) where
  files : σ
  stdout : OutStream := {}
  stderr : OutStream := {}
  /-- How many events there have been. -/
  logged : Nat := 0

/-- The fault of a stream that does not take a text. -/
def FileFault.full : FileFault := .other "No space left on device (os error 28)"

namespace World

variable {σ : Type}

def print (w : World σ) (text : String) : Bool × World σ :=
  let (taken, stdout) := w.stdout.print text
  (taken, { w with stdout })

def complain (w : World σ) (text : String) : Bool × World σ :=
  let (taken, stderr) := w.stderr.put text
  (taken, { w with stderr })

def log (logger : Logger) (w : World σ) (event : LogEvent) : Bool × World σ :=
  let (taken, w') := w.complain (logger.line w.logged event)
  (taken, { w' with logged := w.logged + 1 })

/-- Writes a text to a path. A write that fails changes nothing, also if the path leads to a
stream. -/
def write (disk : FileSystem σ) (w : World σ) (path text : String) :
    Except FileFault Unit × World σ :=
  match disk.write w.files path text with
  | .error fault => (.error fault, w)
  | .ok (.file _ files) => (.ok (), { w with files })
  | .ok .stdout =>
    let (taken, stdout) := w.stdout.put text
    if taken then (.ok (), { w with stdout }) else (.error .full, w)
  | .ok .stderr =>
    let (taken, stderr) := w.stderr.put text
    if taken then (.ok (), { w with stderr }) else (.error .full, w)
  | .ok .nowhere => (.ok (), w)

/-- What a program can do to a world. -/
def machine (disk : FileSystem σ) (logger : Logger) : Machine (StateM (World σ)) where
  isFile path := return (disk.file? (← get).files path).isSome
  read path := return disk.read (← get).files path
  write path text := modifyGet (·.write disk path text)
  print text := modifyGet (·.print text)
  complain text := modifyGet (·.complain text)
  openLog := modifyGet (·.complain logger.opening)
  log event := modifyGet (·.log logger event)

end World

end HeaderFacts

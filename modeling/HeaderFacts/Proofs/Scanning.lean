import HeaderFacts.Template.Scan

/-!
# Scanning line by line

What each kind of line does to a scan, and how scans are put together: a scan of two lists of lines
is a scan of the first and then one of the second from the place where the first stopped. Text that
a scan carries into its first line changes nothing but the segment which that text ends up in, and
the number of the first line changes nothing but the numbers in the result.

Main definitions:

* `trimmedLine`, `Markers.IsStart`, `Markers.IsEnd`, `Markers.Continues` — kinds of lines.
* `Place.Stepped` — what a line can do.
* `Place.ofText` — the place after lines of text, in an inert region or outside of one.
* `glue` — segments put together, with text that meets text made one.

Main results:

* `Place.stepped` — what a line does, one case for each kind of line at each kind of place.
* `scanFrom_append` — a scan of lines one after the other.
* `scanFrom_ofText` — text that a scan starts with is glued to what it finds.
* `scanFrom_alike` — two scans that do the same with each line come to the same.
* `scanFrom_shift` — later lines have later numbers and are the same otherwise.
-/

namespace HeaderFacts

/-! ## Kinds of lines -/

/-- What a line says: its text without the ending and without blanks around it. -/
def trimmedLine (line : List Char) : List Char :=
  Text.trim (Text.lineBody line)

namespace Markers

/-- A line that starts a block. -/
def IsStart (m : Markers) (line : List Char) : Prop :=
  trimmedLine line = m.blockStart.toList

/-- A line that ends a block. -/
def IsEnd (m : Markers) (line : List Char) : Prop :=
  trimmedLine line = m.blockEnd.toList

/-- A line after which a directive goes on: one that ends in the marker for it. An empty marker
continues nothing. -/
def Continues (m : Markers) (line : List Char) : Prop :=
  m.continuation.toList ≠ [] ∧ m.continuation.toList <:+ trimmedLine line

/-- What such a line contributes: its text before the marker, without blanks at the end. -/
def piece (m : Markers) (line : List Char) : List Char :=
  Text.trimEnd ((trimmedLine line).take
    ((trimmedLine line).length - m.continuation.toList.length))

theorem continued?_of_continues {m : Markers} {line : List Char} (h : m.Continues line) :
    m.continued? (trimmedLine line) = some (m.piece line) := by
  obtain ⟨hMarker, rest, hRest⟩ := h
  have hNonempty : m.continuation.isEmpty = false := by
    rw [Bool.eq_false_iff, ne_eq, String.isEmpty_iff]
    rintro hEmpty
    exact hMarker (by rw [hEmpty]; rfl)
  have hStrip : Text.stripEnd? m.continuation.toList (trimmedLine line) = some rest :=
    Text.stripEnd?_eq_some.2 hRest.symm
  rw [continued?, hNonempty, hStrip, piece, ← hRest]
  simp

theorem continued?_of_not_continues {m : Markers} {line : List Char} (h : ¬ m.Continues line) :
    m.continued? (trimmedLine line) = none := by
  rw [continued?]
  split
  · rfl
  · next hNonempty =>
    rw [Option.map_eq_none_iff, Option.eq_none_iff_forall_ne_some]
    intro rest hStrip
    apply h
    refine ⟨?_, rest, (Text.stripEnd?_eq_some.1 hStrip).symm⟩
    intro hEmpty
    apply hNonempty
    rw [String.isEmpty_iff]
    exact String.toList_eq_nil_iff.1 hEmpty

end Markers

/-! ## Steps -/

/-- A directive that goes on keeps the number of its first line. -/
theorem Pending.line_join (p : Pending) (body : List Char) : (p.join body).line = p.line := by
  unfold Pending.join
  split
  · rfl
  · split <;> rfl

/-- A line inside a block leaves the scan in that block. -/
theorem scanDirective_inside {m : Markers} (n start : Nat) (directives : List DirectiveLine)
    (pending : Option Pending) (trimmed : List Char) :
    ∃ directives' pending',
      scanDirective m n start directives pending trimmed =
        .inside start directives' pending' := by
  rw [scanDirective]
  split
  · exact ⟨_, _, rfl⟩
  · cases m.continued? trimmed <;> exact ⟨_, _, rfl⟩

namespace Place

/-- The place after some lines of text, where the scan may wait for the end of an inert region. The
lines are in reverse. -/
def ofText (waiting : Option (List Char)) (text : List (List Char)) : Place :=
  match waiting with
  | none => outside text
  | some closing => inert closing text

/-- What a line can do, with one case for each kind of line at each kind of place. -/
inductive Stepped (m : Markers) (n : Nat) (line : List Char) :
    Place → Except ScanError (List Segment × Place) → Prop
  | start {text} (hStart : m.IsStart line) :
      Stepped m n line (outside text) (.ok (textSegment text, inside n [] none))
  | strayEnd {text} (hStart : ¬ m.IsStart line) (hEnd : m.IsEnd line) :
      Stepped m n line (outside text) (.error (.strayBlockEnd n))
  | text {text} (hStart : ¬ m.IsStart line) (hEnd : ¬ m.IsEnd line)
      (hOpens : m.opensInert? (Text.lineBody line) = none) :
      Stepped m n line (outside text) (.ok ([], outside (line :: text)))
  | opening {text closing} (hStart : ¬ m.IsStart line) (hEnd : ¬ m.IsEnd line)
      (hOpens : m.opensInert? (Text.lineBody line) = some closing) :
      Stepped m n line (outside text) (.ok ([], inert closing (line :: text)))
  | hidden {closing text} (hCloses : ¬ closing <:+: Text.lineBody line) :
      Stepped m n line (inert closing text) (.ok ([], inert closing (line :: text)))
  | closing {closing text} (hCloses : closing <:+: Text.lineBody line) :
      Stepped m n line (inert closing text) (.ok ([], outside (line :: text)))
  | dangling {start directives pending} (hEnd : m.IsEnd line) :
      Stepped m n line (inside start directives (some pending))
        (.error (.danglingContinuation pending.line))
  | blockEnd {start directives} (hEnd : m.IsEnd line) :
      Stepped m n line (inside start directives none)
        (.ok ([.block ⟨start, directives.reverse⟩], outside []))
  | directive {start directives pending directives' pending'} (hEnd : ¬ m.IsEnd line)
      (hPlace : scanDirective m n start directives pending (trimmedLine line) =
        inside start directives' pending') :
      Stepped m n line (inside start directives pending) (.ok ([], inside start directives' pending'))

variable {m : Markers} {n : Nat} {line : List Char} {text : List (List Char)}

theorem step_start (h : m.IsStart line) :
    (outside text).step m n line = .ok (textSegment text, inside n [] none) := by
  unfold Markers.IsStart trimmedLine at h
  simp [step, h]

theorem step_strayEnd (hStart : ¬ m.IsStart line) (hEnd : m.IsEnd line) :
    (outside text).step m n line = .error (.strayBlockEnd n) := by
  unfold Markers.IsStart trimmedLine at hStart
  unfold Markers.IsEnd trimmedLine at hEnd
  simp only [step]
  rw [if_neg hStart, if_pos hEnd]

theorem step_text (hStart : ¬ m.IsStart line) (hEnd : ¬ m.IsEnd line) :
    (outside text).step m n line =
      .ok ([], ofText (m.opensInert? (Text.lineBody line)) (line :: text)) := by
  unfold Markers.IsStart trimmedLine at hStart
  unfold Markers.IsEnd trimmedLine at hEnd
  simp only [step]
  rw [if_neg hStart, if_neg hEnd]
  cases m.opensInert? (Text.lineBody line) <;> rfl

theorem step_hidden {closing : List Char} (h : ¬ closing <:+: Text.lineBody line) :
    (inert closing text).step m n line = .ok ([], inert closing (line :: text)) := by
  rw [← Text.occursIn_iff] at h
  simp only [step]
  rw [if_neg h]

theorem step_closing {closing : List Char} (h : closing <:+: Text.lineBody line) :
    (inert closing text).step m n line = .ok ([], outside (line :: text)) := by
  rw [← Text.occursIn_iff] at h
  simp only [step]
  rw [if_pos h]

variable {start : Nat} {directives : List DirectiveLine}

theorem step_dangling {pending : Pending} (h : m.IsEnd line) :
    (inside start directives (some pending)).step m n line =
      .error (.danglingContinuation pending.line) := by
  unfold Markers.IsEnd trimmedLine at h
  simp [step, h]

theorem step_end (h : m.IsEnd line) :
    (inside start directives none).step m n line =
      .ok ([.block ⟨start, directives.reverse⟩], outside []) := by
  unfold Markers.IsEnd trimmedLine at h
  simp [step, h]

theorem step_directive {pending : Option Pending} (h : ¬ m.IsEnd line) :
    (inside start directives pending).step m n line =
      .ok ([], scanDirective m n start directives pending (trimmedLine line)) := by
  unfold Markers.IsEnd trimmedLine at h
  simp only [step]
  rw [if_neg h]
  rfl

/-- **One line.** Every line does one of these things. -/
theorem stepped (m : Markers) (n : Nat) (line : List Char) (p : Place) :
    Stepped m n line p (p.step m n line) := by
  cases p with
  | outside text =>
    by_cases hStart : m.IsStart line
    · rw [step_start hStart]
      exact .start hStart
    by_cases hEnd : m.IsEnd line
    · rw [step_strayEnd hStart hEnd]
      exact .strayEnd hStart hEnd
    rw [step_text hStart hEnd]
    cases hOpens : m.opensInert? (Text.lineBody line) with
    | none => exact .text hStart hEnd hOpens
    | some closing => exact .opening hStart hEnd hOpens
  | inert closing text =>
    by_cases hCloses : closing <:+: Text.lineBody line
    · rw [step_closing hCloses]
      exact .closing hCloses
    · rw [step_hidden hCloses]
      exact .hidden hCloses
  | inside start directives pending =>
    by_cases hEnd : m.IsEnd line
    · cases pending with
      | none =>
        rw [step_end hEnd]
        exact .blockEnd hEnd
      | some pending =>
        rw [step_dangling hEnd]
        exact .dangling hEnd
    · obtain ⟨directives', pending', hPlace⟩ :=
        scanDirective_inside (m := m) n start directives pending (trimmedLine line)
      rw [step_directive hEnd, hPlace]
      exact .directive hEnd hPlace

theorem stepped_of_eq {p : Place} {result : Except ScanError (List Segment × Place)}
    (hStep : p.step m n line = result) : Stepped m n line p result :=
  hStep ▸ stepped m n line p

end Place

/-! ## Runs -/

section Runs

variable {m : Markers} {n : Nat} {p : Place} {line : List Char} {done : List Segment}

@[simp] theorem scanFrom_nil : scanFrom m n p [] = p.finish := by
  rw [scanFrom, Place.run]
  cases h : p.finish <;> simp [bind, Except.bind, pure, Except.pure, h]

theorem run_cons_ok {next : Place} (h : p.step m n line = .ok (done, next))
    (rest : List (List Char)) :
    p.run m n (line :: rest) =
      (next.run m (n + 1) rest).map fun (more, last) => (done ++ more, last) := by
  rw [Place.run, h]
  cases hRun : next.run m (n + 1) rest <;> simp [bind, Except.bind, pure, Except.pure, Except.map, hRun]

/-- A line that completes nothing is passed over. -/
theorem run_cons_silent {next : Place} (h : p.step m n line = .ok ([], next))
    (rest : List (List Char)) : p.run m n (line :: rest) = next.run m (n + 1) rest := by
  rw [run_cons_ok h]
  cases next.run m (n + 1) rest <;> rfl

theorem run_append_ok {mid : Place} {front : List (List Char)}
    (h : p.run m n front = .ok (done, mid)) (rest : List (List Char)) :
    p.run m n (front ++ rest) =
      (mid.run m (n + front.length) rest).map fun (more, last) => (done ++ more, last) := by
  induction front generalizing n p done with
  | nil =>
    simp only [Place.run, Except.ok.injEq, Prod.mk.injEq] at h
    obtain ⟨rfl, rfl⟩ := h
    cases hRun : p.run m n rest <;> simp [Except.map, hRun]
  | cons line front ih =>
    cases hStep : p.step m n line with
    | error e =>
      rw [Place.run, hStep] at h
      cases h
    | ok result =>
      obtain ⟨first, next⟩ := result
      rw [run_cons_ok hStep] at h
      cases hRun : next.run m (n + 1) front with
      | error e =>
        rw [hRun] at h
        cases h
      | ok tail =>
        obtain ⟨more, last⟩ := tail
        rw [hRun] at h
        simp only [Except.map, Except.ok.injEq, Prod.mk.injEq] at h
        obtain ⟨rfl, rfl⟩ := h
        rw [List.cons_append, run_cons_ok hStep, ih hRun, List.length_cons,
          show n + 1 + front.length = n + (front.length + 1) by omega]
        cases last.run m (n + (front.length + 1)) rest <;> simp [Except.map]

/-- A scan of lines one after the other. -/
theorem scanFrom_append {mid : Place} {front : List (List Char)}
    (h : p.run m n front = .ok (done, mid)) (rest : List (List Char)) :
    scanFrom m n p (front ++ rest) =
      (scanFrom m (n + front.length) mid rest).map (done ++ ·) := by
  rw [scanFrom, run_append_ok h, scanFrom]
  cases mid.run m (n + front.length) rest with
  | error e => rfl
  | ok result =>
    obtain ⟨more, last⟩ := result
    cases hFinish : last.finish <;>
      simp [bind, Except.bind, pure, Except.pure, Except.map, hFinish]

theorem scanFrom_cons_ok {next : Place} (h : p.step m n line = .ok (done, next))
    (rest : List (List Char)) :
    scanFrom m n p (line :: rest) = (scanFrom m (n + 1) next rest).map (done ++ ·) := by
  have hRun : p.run m n [line] = .ok (done, next) := by
    rw [run_cons_ok h]
    simp [Place.run, Except.map]
  exact scanFrom_append hRun rest

theorem scanFrom_cons_error {e : ScanError} (h : p.step m n line = .error e)
    (rest : List (List Char)) : scanFrom m n p (line :: rest) = .error e := by
  rw [scanFrom, Place.run, h]
  rfl

end Runs

/-! ## Text carried into a scan -/

/-- Segments put together, where text that meets text is made one. -/
def glue : List Segment → List Segment → List Segment
  | [], later => later
  | [.text t], .text u :: later => .text (t ++ u) :: later
  | s :: earlier, later => s :: glue earlier later

@[simp] theorem glue_nil (later : List Segment) : glue [] later = later := rfl

@[simp] theorem glue_text_text (t u : String) (later : List Segment) :
    glue [.text t] (.text u :: later) = .text (t ++ u) :: later := rfl

@[simp] theorem glue_block (b : Block) (earlier later : List Segment) :
    glue (.block b :: earlier) later = .block b :: glue earlier later := by
  rw [glue]
  simp

@[simp] theorem glue_text_cons (t : String) (s : Segment) (earlier later : List Segment) :
    glue (.text t :: s :: earlier) later = .text t :: glue (s :: earlier) later := by
  rw [glue]
  simp

/-- Text before segments that do not begin with text stays apart from them. -/
theorem glue_text_glue {t : String} {segments : List Segment}
    (h : ∀ u, segments.head? ≠ some (.text u)) (later : List Segment) :
    glue [.text t] (glue segments later) = glue (.text t :: segments) later := by
  cases segments with
  | nil => rfl
  | cons s rest =>
    cases s with
    | text u => exact absurd rfl (h u)
    | block b =>
      rw [glue_text_cons, glue_block]
      rfl

@[simp] theorem textSegment_nil : textSegment [] = [] := rfl

theorem textSegment_of_ne_nil {text : List (List Char)} (h : text ≠ []) :
    textSegment text = [.text (String.ofList text.reverse.flatten)] := by
  rw [textSegment, if_neg]
  rwa [List.isEmpty_iff]

theorem glue_textSegment (text acc : List (List Char)) :
    glue (textSegment text) (textSegment acc) = textSegment (acc ++ text) := by
  by_cases hText : text = []
  · simp [hText]
  by_cases hAcc : acc = []
  · rw [hAcc, List.nil_append, textSegment_of_ne_nil hText]
    rfl
  · rw [textSegment_of_ne_nil hText, textSegment_of_ne_nil hAcc,
      textSegment_of_ne_nil (by simp [hAcc]), glue_text_text]
    simp

/-- A block keeps what follows it from being glued. -/
theorem glue_append_block (a later : List Segment) (earlier : List Segment) (b : Block) :
    glue earlier (a ++ .block b :: later) = glue earlier a ++ .block b :: later := by
  match earlier with
  | [] => rfl
  | .block c :: earlier =>
    rw [glue_block, glue_block, glue_append_block a later earlier b, List.cons_append]
  | .text t :: s :: earlier =>
    rw [glue_text_cons, glue_text_cons, glue_append_block a later (s :: earlier) b,
      List.cons_append]
  | [.text t] =>
    match a with
    | [] => rfl
    | .block c :: a => rfl
    | .text u :: a => rfl

section Carried

variable {m : Markers}

theorem finish_ofText (waiting : Option (List Char)) (text : List (List Char)) :
    (Place.ofText waiting text).finish = .ok (textSegment text) := by
  cases waiting <;> rfl

/-- What a scan finds from inside a block begins with that block. -/
theorem scanFrom_inside {n start : Nat} {directives : List DirectiveLine}
    {pending : Option Pending} {lines : List (List Char)} {segments : List Segment}
    (h : scanFrom m n (.inside start directives pending) lines = .ok segments) :
    ∃ b later, segments = .block b :: later := by
  induction lines generalizing n directives pending with
  | nil =>
    rw [scanFrom_nil] at h
    cases pending <;> cases h
  | cons line rest ih =>
    by_cases hEnd : m.IsEnd line
    · cases pending with
      | some pending =>
        rw [scanFrom_cons_error (Place.step_dangling hEnd)] at h
        cases h
      | none =>
        rw [scanFrom_cons_ok (Place.step_end hEnd)] at h
        cases hRest : scanFrom m (n + 1) (.outside []) rest with
        | error e =>
          rw [hRest] at h
          cases h
        | ok later =>
          rw [hRest] at h
          cases h
          exact ⟨_, later, rfl⟩
    · rw [scanFrom_cons_ok (Place.step_directive hEnd)] at h
      obtain ⟨directives', pending', hPlace⟩ :=
        scanDirective_inside (m := m) n start directives pending (trimmedLine line)
      rw [hPlace] at h
      cases hRest : scanFrom m (n + 1) (.inside start directives' pending') rest with
      | error e =>
        rw [hRest] at h
        cases h
      | ok later =>
        rw [hRest] at h
        cases h
        exact ih hRest

/-- Text that a scan starts with is glued to what the scan finds without it. -/
theorem scanFrom_ofText (n : Nat) (waiting : Option (List Char)) (acc text : List (List Char))
    (lines : List (List Char)) :
    scanFrom m n (.ofText waiting (acc ++ text)) lines =
      (scanFrom m n (.ofText waiting acc) lines).map (glue (textSegment text)) := by
  induction lines generalizing n waiting acc with
  | nil =>
    rw [scanFrom_nil, scanFrom_nil, finish_ofText, finish_ofText]
    exact congrArg Except.ok (glue_textSegment text acc).symm
  | cons line rest ih =>
    -- a line of text goes to the text before it, with or without the carried text
    have hText (next : Option (List Char))
        (hStep : ∀ t, (Place.ofText waiting t).step m n line =
          .ok ([], .ofText next (line :: t))) :
        scanFrom m n (.ofText waiting (acc ++ text)) (line :: rest) =
          (scanFrom m n (.ofText waiting acc) (line :: rest)).map (glue (textSegment text)) := by
      rw [scanFrom_cons_ok (hStep _), scanFrom_cons_ok (hStep _), ← List.cons_append, ih]
      cases scanFrom m (n + 1) (.ofText next (line :: acc)) rest <;> rfl
    cases waiting with
    | some closing =>
      by_cases hCloses : closing <:+: Text.lineBody line
      · exact hText none fun t => Place.step_closing hCloses
      · exact hText (some closing) fun t => Place.step_hidden hCloses
    | none =>
      by_cases hStart : m.IsStart line
      · rw [Place.ofText, Place.ofText, scanFrom_cons_ok (Place.step_start hStart),
          scanFrom_cons_ok (Place.step_start hStart)]
        cases hRest : scanFrom m (n + 1) (.inside n [] none) rest with
        | error e => rfl
        | ok segments =>
          obtain ⟨b, later, rfl⟩ := scanFrom_inside hRest
          simp only [Except.map]
          rw [glue_append_block, glue_textSegment]
      · by_cases hEnd : m.IsEnd line
        · rw [Place.ofText, Place.ofText, scanFrom_cons_error (Place.step_strayEnd hStart hEnd),
            scanFrom_cons_error (Place.step_strayEnd hStart hEnd)]
          rfl
        · exact hText _ fun t => Place.step_text hStart hEnd

end Carried

/-! ## Scans that run alike -/

/-- Two scans that do the same with each line, up to a change of places, segments, faults and lines,
come to the same up to that change; the second one may stand `k` lines further down. -/
theorem scanFrom_alike {m : Markers} {k : Nat} {move : Place → Place}
    {moveSegment : Segment → Segment} {moveError : ScanError → ScanError}
    {change : List Char → List Char} {lines : List (List Char)}
    (hStep : ∀ n p, ∀ line ∈ lines, (move p).step m (n + k) (change line) =
      ((p.step m n line).mapError moveError).map fun (done, next) =>
        (done.map moveSegment, move next))
    (hFinish : ∀ p, (move p).finish = (p.finish.mapError moveError).map (List.map moveSegment))
    (n : Nat) (p : Place) :
    scanFrom m (n + k) (move p) (lines.map change) =
      ((scanFrom m n p lines).mapError moveError).map (List.map moveSegment) := by
  induction lines generalizing n p with
  | nil => rw [List.map_nil, scanFrom_nil, scanFrom_nil, hFinish]
  | cons line rest ih =>
    have hFirst := hStep n p line (List.mem_cons_self ..)
    have hRest : ∀ n p, ∀ line ∈ rest, (move p).step m (n + k) (change line) =
        ((p.step m n line).mapError moveError).map fun (done, next) =>
          (done.map moveSegment, move next) :=
      fun n p other hOther => hStep n p other (List.mem_cons_of_mem _ hOther)
    rw [List.map_cons]
    cases h : p.step m n line with
    | error e =>
      rw [h] at hFirst
      rw [scanFrom_cons_error hFirst, scanFrom_cons_error h]
      rfl
    | ok result =>
      obtain ⟨done, next⟩ := result
      rw [h] at hFirst
      rw [scanFrom_cons_ok hFirst, scanFrom_cons_ok h, show n + k + 1 = n + 1 + k by omega,
        ih hRest]
      cases scanFrom m (n + 1) next rest with
      | error e => rfl
      | ok later => exact congrArg Except.ok List.map_append.symm

/-! ## Line numbers -/

/-- A directive that stands some lines further down. -/
def DirectiveLine.shift (k : Nat) (d : DirectiveLine) : DirectiveLine :=
  { d with line := d.line + k }

/-- A block that stands some lines further down. -/
def Block.shift (k : Nat) (b : Block) : Block :=
  ⟨b.line + k, b.directives.map (·.shift k)⟩

/-- A segment that stands some lines further down. -/
def Segment.shift (k : Nat) : Segment → Segment
  | text t => text t
  | block b => block (b.shift k)

/-- A fault that stands some lines further down. -/
def ScanError.shift (k : Nat) : ScanError → ScanError
  | unterminatedBlock line => unterminatedBlock (line + k)
  | strayBlockEnd line => strayBlockEnd (line + k)
  | danglingContinuation line => danglingContinuation (line + k)

/-- A pending directive that began some lines further down. -/
def Pending.shift (k : Nat) (p : Pending) : Pending :=
  { p with line := p.line + k }

/-- A place some lines further down. -/
def Place.shift (k : Nat) : Place → Place
  | outside text => outside text
  | inert closing text => inert closing text
  | inside start directives pending =>
    inside (start + k) (directives.map (·.shift k)) (pending.map (·.shift k))

section Numbers

variable {m : Markers} (k : Nat)

theorem textSegment_shift (text : List (List Char)) :
    (textSegment text).map (·.shift k) = textSegment text := by
  rw [textSegment]
  split <;> rfl

theorem pending_shift_join (p : Pending) (body : List Char) :
    (p.shift k).join body = (p.join body).shift k := by
  obtain ⟨line, text⟩ := p
  cases body with
  | nil => rfl
  | cons c body => cases text <;> rfl

theorem scanDirective_shift (n start : Nat) (directives : List DirectiveLine)
    (pending : Option Pending) (trimmed : List Char) :
    scanDirective m (n + k) (start + k) (directives.map (·.shift k)) (pending.map (·.shift k))
        trimmed =
      (scanDirective m n start directives pending trimmed).shift k := by
  have hJoin (body : List Char) :
      ((pending.map (Pending.shift k)).map (Pending.join · body)).getD ⟨n + k, body⟩ =
        ((pending.map (Pending.join · body)).getD ⟨n, body⟩).shift k := by
    cases pending with
    | none => rfl
    | some p => exact pending_shift_join k p body
  simp only [scanDirective, hJoin, Option.isNone_map]
  split
  · rfl
  · cases m.continued? trimmed <;> rfl

theorem step_shift (n : Nat) (line : List Char) (p : Place) :
    (p.shift k).step m (n + k) line =
      ((p.step m n line).mapError (·.shift k)).map fun (done, next) =>
        (done.map (·.shift k), next.shift k) := by
  cases p with
  | outside text =>
    by_cases hStart : m.IsStart line
    · rw [Place.shift, Place.step_start hStart, Place.step_start hStart]
      exact congrArg (fun done => Except.ok (done, Place.inside (n + k) [] none))
        (textSegment_shift k text).symm
    · by_cases hEnd : m.IsEnd line
      · rw [Place.shift, Place.step_strayEnd hStart hEnd, Place.step_strayEnd hStart hEnd]
        rfl
      · rw [Place.shift, Place.step_text hStart hEnd, Place.step_text hStart hEnd]
        cases m.opensInert? (Text.lineBody line) <;> rfl
  | inert closing text =>
    by_cases hCloses : closing <:+: Text.lineBody line
    · rw [Place.shift, Place.step_closing hCloses, Place.step_closing hCloses]
      rfl
    · rw [Place.shift, Place.step_hidden hCloses, Place.step_hidden hCloses]
      rfl
  | inside start directives pending =>
    by_cases hEnd : m.IsEnd line
    · cases pending with
      | some pending =>
        rw [Place.shift, Option.map_some, Place.step_dangling hEnd, Place.step_dangling hEnd]
        rfl
      | none =>
        rw [Place.shift, Option.map_none, Place.step_end hEnd, Place.step_end hEnd]
        exact congrArg (fun ds => Except.ok ([Segment.block ⟨start + k, ds⟩], Place.outside []))
          List.map_reverse.symm
    · rw [Place.shift, Place.step_directive hEnd, Place.step_directive hEnd,
        scanDirective_shift]
      rfl

theorem finish_shift (p : Place) :
    (p.shift k).finish =
      (p.finish.mapError (·.shift k)).map (List.map (·.shift k)) := by
  match p with
  | .outside text => exact congrArg Except.ok (textSegment_shift k text).symm
  | .inert closing text => exact congrArg Except.ok (textSegment_shift k text).symm
  | .inside start directives none => rfl
  | .inside start directives (some pending) => rfl

/-- Lines further down make the same segments or the same fault, further down. -/
theorem scanFrom_shift (n : Nat) (p : Place) (lines : List (List Char)) :
    scanFrom m (n + k) (p.shift k) lines =
      ((scanFrom m n p lines).mapError (·.shift k)).map (List.map (·.shift k)) := by
  have hStep : ∀ n (p : Place), ∀ line ∈ lines, (p.shift k).step m (n + k) (id line) =
      ((p.step m n line).mapError (·.shift k)).map fun (done, next) =>
        (done.map (·.shift k), next.shift k) :=
    fun n p line _ => step_shift k n line p
  have hAlike := scanFrom_alike hStep (finish_shift k) n p
  rwa [List.map_id] at hAlike

end Numbers

end HeaderFacts

import HeaderFacts.Proofs.Tiling

/-!
# Lines hidden in an inert region

In an inert region nothing counts but the closing delimiter, so whole lines without it can be put
there, whatever they look like. They become part of the text that the region lies in, and everything
behind them is found as before, further down. The numbers that a scan writes into blocks and faults
are those of lines that it has read, so the numbers behind the inserted lines are exactly the ones
that grow.

Main definitions:

* `Markers.waitsAfter?` — the delimiter that the end of a source waits for.
* `Place.Numbered`, `Segment.Numbered`, `NumberedOutcome` — all line numbers have a property.
* `movedLine`, `Segment.moved`, `ScanError.moved` — what inserted lines do to the numbers.

Main results:

* `Place.Numbered.step`, `scanFrom_numbered` — a scan writes down numbers of lines it has read.
* `scanFrom_hidden` — lines that do not close a region only add to its text.
* `scan_insert_hidden` — lines inserted in an inert region show in the text around them alone.
-/

namespace HeaderFacts

/-! ## Numbers of lines -/

/-- A segment whose line numbers all have a property. -/
def Segment.Numbered (P : Nat → Prop) : Segment → Prop
  | text _ => True
  | block b => P b.line ∧ ∀ d ∈ b.directives, P d.line

/-- A place whose line numbers, those of the block and the directives at hand, all have a
property. -/
def Place.Numbered (P : Nat → Prop) : Place → Prop
  | outside _ => True
  | inert _ _ => True
  | inside start directives pending =>
    P start ∧ (∀ d ∈ directives, P d.line) ∧ ∀ p, pending = some p → P p.line

/-- What a scan comes to, where all line numbers in it have a property. -/
def NumberedOutcome (P : Nat → Prop) : Except ScanError (List Segment) → Prop
  | .ok segments => ∀ s ∈ segments, s.Numbered P
  | .error e => P e.line

section Numbers

variable {m : Markers} {P : Nat → Prop} {n : Nat} {p : Place} {line : List Char}

theorem numbered_textSegment (text : List (List Char)) : ∀ s ∈ textSegment text, s.Numbered P := by
  intro s hs
  rw [textSegment] at hs
  split at hs
  · cases hs
  · rw [List.mem_singleton.1 hs]
    trivial

/-- A line inside a block brings in no number but its own. -/
theorem numbered_scanDirective {start : Nat} {directives : List DirectiveLine}
    {pending : Option Pending} (hLine : P n)
    (h : (Place.inside start directives pending).Numbered P) (trimmed : List Char) :
    (scanDirective m n start directives pending trimmed).Numbered P := by
  obtain ⟨hStart, hDirectives, hPending⟩ := h
  -- a directive that goes on keeps the number of its first line
  have hJoined : ∀ body, P ((pending.map (Pending.join · body)).getD ⟨n, body⟩).line := by
    intro body
    cases pending with
    | none => exact hLine
    | some p =>
      rw [Option.map_some, Option.getD_some, p.line_join]
      exact hPending p rfl
  unfold scanDirective
  split
  · exact ⟨hStart, hDirectives, by simp⟩
  · cases m.continued? trimmed with
    | none => exact ⟨hStart, List.forall_mem_cons.2 ⟨hJoined trimmed, hDirectives⟩, by simp⟩
    | some body =>
      refine ⟨hStart, hDirectives, ?_⟩
      rintro p hp
      rw [← Option.some.inj hp]
      exact hJoined body

/-- **One line.** What a line completes and what it leaves open have no number but its own and those
that were there before it. -/
theorem Place.Numbered.step {done : List Segment} {next : Place} (h : p.Numbered P) (hLine : P n)
    (hStep : p.step m n line = .ok (done, next)) :
    (∀ s ∈ done, s.Numbered P) ∧ next.Numbered P := by
  cases stepped_of_eq hStep with
  | start hStart => exact ⟨numbered_textSegment _, hLine, by simp, by simp⟩
  | text => exact ⟨by simp, trivial⟩
  | opening => exact ⟨by simp, trivial⟩
  | hidden => exact ⟨by simp, trivial⟩
  | closing => exact ⟨by simp, trivial⟩
  | @blockEnd start directives hEnd =>
    obtain ⟨hStart, hDirectives, -⟩ := h
    have hBlock : (Segment.block ⟨start, directives.reverse⟩).Numbered P :=
      ⟨hStart, fun d hd => hDirectives d (List.mem_reverse.1 hd)⟩
    exact ⟨by simpa using hBlock, trivial⟩
  | directive hEnd hPlace =>
    refine ⟨by simp, ?_⟩
    rw [← hPlace]
    exact numbered_scanDirective hLine h (trimmedLine line)

/-- A line that is refused is refused with its own number or with one that was there before it. -/
theorem Place.Numbered.step_error {e : ScanError} (h : p.Numbered P) (hLine : P n)
    (hStep : p.step m n line = .error e) : P e.line := by
  cases stepped_of_eq hStep with
  | strayEnd => exact hLine
  | dangling => exact h.2.2 _ rfl

theorem Place.Numbered.finish (h : p.Numbered P) : NumberedOutcome P p.finish := by
  match p with
  | .outside text => exact numbered_textSegment text
  | .inert closing text => exact numbered_textSegment text
  | .inside start directives none => exact h.1
  | .inside start directives (some pending) => exact h.2.2 pending rfl

/-- **A scan.** All numbers in what a scan comes to are numbers of lines that it has read, or were
there before the first of them. -/
theorem scanFrom_numbered {lines : List (List Char)} (h : p.Numbered P)
    (hLines : ∀ i, n ≤ i → i < n + lines.length → P i) :
    NumberedOutcome P (scanFrom m n p lines) := by
  induction lines generalizing n p with
  | nil =>
    rw [scanFrom_nil]
    exact h.finish
  | cons line rest ih =>
    rw [List.length_cons] at hLines
    have hLine : P n := hLines n (Nat.le_refl n) (by omega)
    cases hStep : p.step m n line with
    | error e =>
      rw [scanFrom_cons_error hStep]
      exact h.step_error hLine hStep
    | ok result =>
      obtain ⟨done, next⟩ := result
      obtain ⟨hDone, hNext⟩ := h.step hLine hStep
      have hRest : NumberedOutcome P (scanFrom m (n + 1) next rest) :=
        ih hNext fun i hFrom hTo => hLines i (by omega) (by omega)
      rw [scanFrom_cons_ok hStep]
      cases hScan : scanFrom m (n + 1) next rest with
      | error e =>
        rw [hScan] at hRest
        exact hRest
      | ok later =>
        rw [hScan] at hRest
        intro s hs
        exact (List.mem_append.1 hs).elim (hDone s) (hRest s)

end Numbers

/-! ## Inserted lines -/

/-- The number of a line once `k` lines have been inserted behind the first `n`. -/
def movedLine (n k line : Nat) : Nat :=
  if n < line then line + k else line

/-- A segment once `k` lines have been inserted behind the first `n`. -/
def Segment.moved (n k : Nat) : Segment → Segment
  | text t => text t
  | block b =>
    block ⟨movedLine n k b.line, b.directives.map fun d => { d with line := movedLine n k d.line }⟩

/-- A fault once `k` lines have been inserted behind the first `n`. -/
def ScanError.moved (n k : Nat) : ScanError → ScanError
  | unterminatedBlock line => unterminatedBlock (movedLine n k line)
  | strayBlockEnd line => strayBlockEnd (movedLine n k line)
  | danglingContinuation line => danglingContinuation (movedLine n k line)

section Moved

variable {n k : Nat}

theorem movedLine_of_before {line : Nat} (h : line ≤ n) : movedLine n k line = line :=
  if_neg (by omega)

theorem movedLine_of_after {line : Nat} (h : n < line) : movedLine n k line = line + k :=
  if_pos h

theorem Segment.shift_zero (s : Segment) : s.shift 0 = s := by
  cases s with
  | text t => rfl
  | block b =>
    have hSame : b.directives.map (·.shift 0) = b.directives := List.map_id _
    rw [shift, Block.shift, hSame]
    rfl

/-- A segment of which all lines are moved alike stands further down. -/
theorem Segment.moved_eq_shift {s : Segment} {j : Nat}
    (h : s.Numbered fun line => movedLine n k line = line + j) : s.moved n k = s.shift j := by
  cases s with
  | text t => rfl
  | block b =>
    obtain ⟨hStart, hDirectives⟩ := h
    have hMap : (b.directives.map fun d => { d with line := movedLine n k d.line }) =
        b.directives.map (·.shift j) := by
      apply List.map_congr_left
      intro d hd
      rw [hDirectives d hd]
      rfl
    rw [moved, hStart, hMap]
    rfl

theorem map_moved_eq_shift {segments : List Segment} {j : Nat}
    (h : ∀ s ∈ segments, s.Numbered fun line => movedLine n k line = line + j) :
    segments.map (·.moved n k) = segments.map (·.shift j) :=
  List.map_congr_left fun s hs => Segment.moved_eq_shift (h s hs)

theorem ScanError.moved_eq_shift {e : ScanError} {j : Nat}
    (h : movedLine n k e.line = e.line + j) : e.moved n k = e.shift j := by
  cases e with
  | unterminatedBlock line => exact congrArg unterminatedBlock h
  | strayBlockEnd line => exact congrArg strayBlockEnd h
  | danglingContinuation line => exact congrArg danglingContinuation h

end Moved

/-! ## Scans that go on in an inert region -/

/-- The delimiter of the inert region that a scan is in at the end of a source. There is none if it
ends outside of them, and none if the scan has failed before. -/
def Markers.waitsAfter? (m : Markers) (source : String) : Option (List Char) :=
  match (Place.outside []).run m 1 (Text.lines source.toList) with
  | .ok (_, .inert closing _) => some closing
  | _ => none

section Waiting

variable {m : Markers} {closing : List Char}

/-- A line after which a scan is in an inert region belongs to the text of the region. -/
theorem Place.text_of_step {p : Place} {n : Nat} {line : List Char} {done : List Segment}
    {text : List (List Char)} (hStep : p.step m n line = .ok (done, .inert closing text)) :
    ∃ earlier, text = line :: earlier := by
  cases stepped_of_eq hStep with
  | opening => exact ⟨_, rfl⟩
  | hidden => exact ⟨_, rfl⟩

/-- Lines after which a scan is in an inert region end with text. -/
theorem text_ne_nil_of_run {p : Place} {n : Nat} {lines : List (List Char)} {done : List Segment}
    {text : List (List Char)} (hLines : lines ≠ [])
    (hRun : p.run m n lines = .ok (done, .inert closing text)) : text ≠ [] := by
  induction lines generalizing n p done with
  | nil => exact absurd rfl hLines
  | cons line rest ih =>
    cases hStep : p.step m n line with
    | error e =>
      rw [Place.run, hStep] at hRun
      cases hRun
    | ok result =>
      obtain ⟨first, next⟩ := result
      rw [run_cons_ok hStep] at hRun
      obtain ⟨⟨more, last⟩, hRest, hLast⟩ := ok_of_map hRun
      cases hLast
      by_cases hNone : rest = []
      · rw [hNone] at hRest
        cases hRest
        obtain ⟨earlier, rfl⟩ := Place.text_of_step hStep
        exact List.cons_ne_nil _ _
      · exact ih hNone hRest

/-- Where a scan is at the end of a source that waits for a delimiter. -/
theorem run_of_waitsAfter? {source : String} (h : m.waitsAfter? source = some closing) :
    ∃ done text, (Place.outside []).run m 1 (Text.lines source.toList) =
      .ok (done, .inert closing text) ∧ text ≠ [] := by
  rw [Markers.waitsAfter?] at h
  split at h
  · next done delimiter text hRun =>
    obtain rfl : delimiter = closing := Option.some.inj h
    have hLines : Text.lines source.toList ≠ [] := by
      intro hNone
      rw [hNone] at hRun
      cases hRun
    exact ⟨done, text, hRun, text_ne_nil_of_run hLines hRun⟩
  · cases h

/-- Behind whole lines that end in an inert region, a scan goes on in that region. -/
theorem scan_append_of_run {source : String} {done : List Segment} {text : List (List Char)}
    (hNewline : source.toList.getLast? = some '\n')
    (hRun : (Place.outside []).run m 1 (Text.lines source.toList) = .ok (done, .inert closing text))
    (more : String) :
    m.scan (source ++ more) =
      (scanFrom m (1 + (Text.lines source.toList).length) (.inert closing text)
        (Text.lines more.toList)).map (done ++ ·) := by
  rw [Markers.scan, String.toList_append, Text.lines_append (Or.inr hNewline)]
  exact scanFrom_append hRun _

/-- Lines that do not close an inert region only add to its text: what comes behind them is found as
if it stood in their place, further down. -/
theorem scanFrom_hidden {hidden : List (List Char)}
    (h : ∀ l ∈ hidden, ¬ closing <:+: Text.lineBody l) (n : Nat) (text rest : List (List Char)) :
    scanFrom m n (.inert closing text) (hidden ++ rest) =
      ((scanFrom m n (.inert closing []) rest).mapError (·.shift hidden.length)).map fun later =>
        glue (textSegment (hidden.reverse ++ text)) (later.map (·.shift hidden.length)) := by
  have hCarried := scanFrom_ofText (m := m) (n + hidden.length) (some closing) []
    (hidden.reverse ++ text) rest
  have hShift := scanFrom_shift (m := m) hidden.length n (.inert closing []) rest
  rw [List.nil_append, Place.ofText, Place.ofText] at hCarried
  rw [Place.shift] at hShift
  rw [scanFrom_append (run_hidden h n text), hCarried, hShift]
  cases scanFrom m n (.inert closing []) rest <;> rfl

end Waiting

/-! ## Inserting lines -/

/-- Text in front of segments becomes one with the text that they begin with, if they do. -/
theorem exists_glue_text (k : Nat) (segments : List Segment) :
    ∃ b after, (∀ s ∈ after, s ∈ segments) ∧
      ∀ a, glue [.text a] segments = .text (a ++ b) :: after ∧
        glue [.text a] (segments.map (·.shift k)) = .text (a ++ b) :: after.map (·.shift k) := by
  match segments with
  | [] => exact ⟨"", [], by simp, fun a => by simp [glue]⟩
  | .text b :: after => exact ⟨b, after, fun s hs => List.mem_cons_of_mem _ hs, fun a => ⟨rfl, rfl⟩⟩
  | .block c :: after =>
    refine ⟨"", .block c :: after, fun s hs => hs, fun a => ?_⟩
    rw [String.append_empty]
    exact ⟨rfl, rfl⟩

/-- **Inert regions are opaque.** Let `p` end with a whole line in an inert region, and let `t` be
whole lines that do not hold the closing delimiter, whatever else they are. Then the text `a` that
`p` ends with grows by `t` right behind `a`, the numbers of lines behind `p` grow by the number of
lines of `t`, and nothing else about a scan changes, be it a success or a fault. -/
theorem scan_insert_hidden {m : Markers} {p t : String} {closing : List Char}
    (hNewline : p.toList.getLast? = some '\n') (hInert : m.waitsAfter? p = some closing)
    (hWhole : t = "" ∨ t.toList.getLast? = some '\n')
    (hHidden : ∀ line ∈ Text.lines t.toList, ¬ closing <:+: Text.lineBody line) (q : String) :
    let n := (Text.lines p.toList).length
    let k := (Text.lines t.toList).length
    ∃ before a, m.scan p = .ok (before ++ [.text a]) ∧
      ((∃ e, m.scan (p ++ q) = .error e ∧ m.scan (p ++ t ++ q) = .error (e.moved n k)) ∨
        ∃ b after, m.scan (p ++ q) = .ok (before ++ .text (a ++ b) :: after) ∧
          m.scan (p ++ t ++ q) =
            .ok ((before ++ .text (a ++ t ++ b) :: after).map (·.moved n k))) := by
  intro n k
  obtain ⟨before, text, hRun, hText⟩ := run_of_waitsAfter? hInert
  let a := String.ofList text.reverse.flatten
  let later := scanFrom m (1 + n) (.inert closing []) (Text.lines q.toList)
  -- the text at the end of `p`, without and with the inserted lines
  have hAlone : textSegment text = [.text a] := textSegment_of_ne_nil hText
  have hGrown : textSegment ((Text.lines t.toList).reverse ++ text) = [.text (a ++ t)] := by
    rw [textSegment_of_ne_nil (by simp [hText])]
    simp [a]
  have hScan : m.scan p = .ok (before ++ [.text a]) := by
    have hAll := scanFrom_append hRun []
    rw [List.append_nil, scanFrom_nil, Place.finish, hAlone] at hAll
    exact hAll
  have hWithout : m.scan (p ++ q) =
      (later.map fun found => glue [.text a] found).map (before ++ ·) := by
    have hCarried := scanFrom_ofText (m := m) (1 + n) (some closing) [] text (Text.lines q.toList)
    rw [List.nil_append, Place.ofText, Place.ofText, hAlone] at hCarried
    rw [scan_append_of_run hNewline hRun, hCarried]
  have hWith : m.scan (p ++ t ++ q) =
      ((later.mapError (·.shift k)).map fun found =>
        glue [.text (a ++ t)] (found.map (·.shift k))).map (before ++ ·) := by
    have hEnd : t.toList = [] ∨ t.toList.getLast? = some '\n' :=
      hWhole.imp_left String.toList_eq_nil_iff.2
    rw [String.append_assoc, scan_append_of_run hNewline hRun, String.toList_append,
      Text.lines_append hEnd, scanFrom_hidden hHidden, hGrown]
  -- the lines of `p` stay where they are, and those of `q` are moved
  have hBefore : ∀ s ∈ before, s.Numbered fun line => movedLine n k line = line + 0 := by
    have hOutcome : NumberedOutcome (fun line => movedLine n k line = line + 0) (m.scan p) :=
      scanFrom_numbered trivial fun i hFrom hTo => movedLine_of_before (by omega)
    rw [hScan] at hOutcome
    exact fun s hs => hOutcome s (List.mem_append_left _ hs)
  have hLater : NumberedOutcome (fun line => movedLine n k line = line + k) later :=
    scanFrom_numbered trivial fun i hFrom hTo => movedLine_of_after (by omega)
  refine ⟨before, a, hScan, ?_⟩
  cases hFound : later with
  | error e =>
    rw [hFound] at hWithout hWith hLater
    refine Or.inl ⟨e, hWithout, ?_⟩
    rw [hWith, ScanError.moved_eq_shift hLater]
    rfl
  | ok found =>
    rw [hFound] at hWithout hWith hLater
    obtain ⟨b, after, hAfter, hGlue⟩ := exists_glue_text k found
    have hFront : before.map (·.moved n k) = before := by
      rw [map_moved_eq_shift hBefore]
      exact (List.map_congr_left fun s _ => s.shift_zero).trans (List.map_id before)
    have hBack : after.map (·.moved n k) = after.map (·.shift k) :=
      map_moved_eq_shift fun s hs => hLater s (hAfter s hs)
    refine Or.inr ⟨b, after, ?_, ?_⟩
    · rw [hWithout, ← (hGlue a).1]
      rfl
    · rw [hWith, List.map_append, List.map_cons, hFront, hBack, Segment.moved,
        ← (hGlue (a ++ t)).2]
      rfl

/-- Markers, a directive and an opening delimiter as inserted lines, between two blocks. -/
theorem scan_insert_hidden_markers :
    let m : Markers := {}
    let p := "@@extract\n@@end\n/* a\n"
    let t := "@@end\n@@extract\nsizeof \\\n/* b\n"
    let q := "c */\n@@extract\nsizeof h.h\n@@end\n"
    p.toList.getLast? = some '\n' ∧ m.waitsAfter? p = some ['*', '/'] ∧
      t.toList.getLast? = some '\n' ∧
      (∀ line ∈ Text.lines t.toList, ¬ ['*', '/'] <:+: Text.lineBody line) ∧
      m.scan (p ++ t ++ q) = .ok [.block ⟨1, []⟩,
        .text "/* a\n@@end\n@@extract\nsizeof \\\n/* b\nc */\n",
        .block ⟨9, [⟨10, "sizeof h.h"⟩]⟩] := by
  intro m p t q
  have hNewline : p.toList.getLast? = some '\n' := by decide +kernel
  have hInert : m.waitsAfter? p = some ['*', '/'] := by decide +kernel
  have hWhole : t.toList.getLast? = some '\n' := by decide +kernel
  have hHidden : ∀ line ∈ Text.lines t.toList, ¬ ['*', '/'] <:+: Text.lineBody line := by
    decide +kernel
  have hWithout : m.scan (p ++ q) = .ok [.block ⟨1, []⟩, .text "/* a\nc */\n",
      .block ⟨5, [⟨6, "sizeof h.h"⟩]⟩] := by decide +kernel
  have hAlone : m.scan p = .ok [.block ⟨1, []⟩, .text "/* a\n"] := by decide +kernel
  refine ⟨hNewline, hInert, hWhole, hHidden, ?_⟩
  obtain ⟨before, a, hScan, ⟨e, hFault, -⟩ | ⟨b, after, hFound, hGrown⟩⟩ :=
    scan_insert_hidden hNewline hInert (Or.inr hWhole) hHidden q
  · rw [hWithout] at hFault
    cases hFault
  · -- what is found without the lines leaves one choice for the parts
    have hEnds : before ++ [.text a] = [.block ⟨1, []⟩] ++ [.text "/* a\n"] :=
      Except.ok.inj (hScan.symm.trans hAlone)
    obtain ⟨rfl, hText⟩ := List.append_inj' hEnds rfl
    obtain rfl : a = "/* a\n" := by simpa using hText
    have hFollows := Except.ok.inj (hFound.symm.trans hWithout)
    simp only [List.singleton_append, List.cons.injEq, Segment.text.injEq, true_and] at hFollows
    obtain ⟨hAround, rfl⟩ := hFollows
    obtain rfl : b = "c */\n" := (String.append_right_inj "/* a\n").1 hAround
    rw [hGrown]
    decide +kernel

end HeaderFacts

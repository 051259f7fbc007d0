import HeaderFacts.Proofs.FirstFailure
import HeaderFacts.Proofs.Scanning

/-!
# Tilings of a template

What a scan finds, said without a scan: the physical lines of a source fall into consecutive spans,
one for each segment. A span of text is kept as it is and shows no marker outside of inert regions.
A span of a block is what stands from its start marker to the next end marker, and the lines in
between are blank or belong to directives, each of which is continued over some lines and ends with
one that continues no further. Where a source cannot be tiled, a fault stands right after a tiled
part of it.

Main definitions:

* `Verbatim` — lines of text, and the delimiter they wait for at their end.
* `Directives` — the directives of the lines inside a block.
* `Tiling` — segments over spans of lines.
* `Fault` — how lines can begin that no segment can begin with.

Main results:

* `scanFrom_tiling_append` — a tiled part of a source is scanned to its segments.
* `tiling_or_fault` — lines are tiled, or a tiled part of them is followed by a fault.
* `scan_eq_ok_iff_tiling` — a scan finds some segments exactly when they tile the source.
-/

namespace HeaderFacts

/-! ## The grammar of a template -/

/-- Lines of text. A line outside of inert regions is no marker. A region begins after a line that
opens it and lasts through the first line with its closing delimiter; `waiting` is the delimiter of
a region that is still open after the last line. -/
inductive Verbatim (m : Markers) : List (List Char) → Option (List Char) → Prop
  | nil : Verbatim m [] none
  | line {line rest waiting} (hStart : ¬ m.IsStart line) (hEnd : ¬ m.IsEnd line)
      (hOpens : m.opensInert? (Text.lineBody line) = none) (hRest : Verbatim m rest waiting) :
      Verbatim m (line :: rest) waiting
  | region {line closing hidden last rest waiting} (hStart : ¬ m.IsStart line)
      (hEnd : ¬ m.IsEnd line) (hOpens : m.opensInert? (Text.lineBody line) = some closing)
      (hHidden : ∀ l ∈ hidden, ¬ closing <:+: Text.lineBody l)
      (hCloses : closing <:+: Text.lineBody last) (hRest : Verbatim m rest waiting) :
      Verbatim m (line :: (hidden ++ last :: rest)) waiting
  | openRegion {line closing hidden} (hStart : ¬ m.IsStart line) (hEnd : ¬ m.IsEnd line)
      (hOpens : m.opensInert? (Text.lineBody line) = some closing)
      (hHidden : ∀ l ∈ hidden, ¬ closing <:+: Text.lineBody l) :
      Verbatim m (line :: hidden) (some closing)

/-- The text of a directive: what its lines contribute, empty contributions left out, joined by
single spaces. -/
def joinedText (pieces : List (List Char)) : List Char :=
  [' '].intercalate (pieces.filter (!·.isEmpty))

/-- The directive of a line, numbered `n`, and of the lines before it that it continues; the
number is that of the first of them. -/
def directiveOf (m : Markers) (n : Nat) (front : List (List Char)) (last : List Char) :
    DirectiveLine :=
  ⟨n, String.ofList (joinedText (front.map m.piece ++ [trimmedLine last]))⟩

/-- The directives of lines inside a block, the first of which is numbered `n`. A blank line counts
for nothing where no directive goes on. A directive goes on after each of its lines but the last. -/
inductive Directives (m : Markers) : Nat → List (List Char) → List DirectiveLine → Prop
  | nil {n} : Directives m n [] []
  | blank {n line rest directives} (hBlank : trimmedLine line = [])
      (hRest : Directives m (n + 1) rest directives) : Directives m n (line :: rest) directives
  | directive {n front last rest directives} (hFront : ∀ l ∈ front, m.Continues l)
      (hLast : ¬ m.Continues last) (hFirst : front = [] → trimmedLine last ≠ [])
      (hRest : Directives m (n + front.length + 1) rest directives) :
      Directives m n (front ++ last :: rest) (directiveOf m n front last :: directives)

/-- Segments over consecutive spans of lines, the first of which is numbered `n`. Text never
follows text, and only the last text may wait for the end of an inert region. -/
inductive Tiling (m : Markers) :
    Nat → List (List (List Char)) → List Segment → Option (List Char) → Prop
  | done {n} : Tiling m n [] [] none
  | text {n span spans segments waiting} (hSpan : span ≠ []) (hText : Verbatim m span none)
      (hRest : Tiling m (n + span.length) spans segments waiting)
      (hNext : ∀ t, segments.head? ≠ some (.text t)) :
      Tiling m n (span :: spans) (.text (String.ofList span.flatten) :: segments) waiting
  | openText {n span closing} (hText : Verbatim m span (some closing)) :
      Tiling m n [span] [.text (String.ofList span.flatten)] (some closing)
  | block {n first body last directives spans segments waiting} (hStart : m.IsStart first)
      (hBody : ∀ l ∈ body, ¬ m.IsEnd l) (hEnd : m.IsEnd last)
      (hDirectives : Directives m (n + 1) body directives)
      (hRest : Tiling m (n + (body.length + 2)) spans segments waiting) :
      Tiling m n ((first :: (body ++ [last])) :: spans) (.block ⟨n, directives⟩ :: segments)
        waiting

/-- Lines outside of text and blocks that begin with no segment, and the fault of the first of
them that cannot stand where it does; the first is numbered `n`. -/
inductive Fault (m : Markers) : Nat → List (List Char) → ScanError → Prop
  | strayEnd {n line rest} (hStart : ¬ m.IsStart line) (hEnd : m.IsEnd line) :
      Fault m n (line :: rest) (.strayBlockEnd n)
  | dangling {n first body front rest directives} (hStart : m.IsStart first)
      (hBody : ∀ l ∈ body ++ front, ¬ m.IsEnd l) (hDirectives : Directives m (n + 1) body directives)
      (hFront : ∀ l ∈ front, m.Continues l) (hPending : front ≠ [])
      (hRest : ∀ l, rest.head? = some l → m.IsEnd l) :
      Fault m n (first :: (body ++ (front ++ rest))) (.danglingContinuation (n + 1 + body.length))
  | unterminated {n first body directives} (hStart : m.IsStart first)
      (hBody : ∀ l ∈ body, ¬ m.IsEnd l) (hDirectives : Directives m (n + 1) body directives) :
      Fault m n (first :: body) (.unterminatedBlock n)

/-! ## Scans of spans -/

section Spans

variable {m : Markers}

theorem run_hidden {closing : List Char} {hidden : List (List Char)}
    (h : ∀ l ∈ hidden, ¬ closing <:+: Text.lineBody l) (n : Nat) (acc : List (List Char)) :
    (Place.inert closing acc).run m n hidden =
      .ok ([], .inert closing (hidden.reverse ++ acc)) := by
  induction hidden generalizing n acc with
  | nil => rfl
  | cons line rest ih =>
    rw [run_cons_silent (Place.step_hidden (h line (List.mem_cons_self ..))),
      ih fun l hl => h l (List.mem_cons_of_mem _ hl)]
    simp

/-- Lines of text are taken over as they are. -/
theorem run_verbatim {span : List (List Char)} {waiting : Option (List Char)}
    (h : Verbatim m span waiting) (n : Nat) (acc : List (List Char)) :
    (Place.outside acc).run m n span = .ok ([], .ofText waiting (span.reverse ++ acc)) := by
  induction h generalizing n acc with
  | nil => rfl
  | @line line rest waiting hStart hEnd hOpens hRest ih =>
    have hStep : (Place.outside acc).step m n line = .ok ([], .outside (line :: acc)) := by
      rw [Place.step_text hStart hEnd, hOpens]
      rfl
    rw [run_cons_silent hStep, ih]
    simp
  | @region line closing hidden last rest waiting hStart hEnd hOpens hHidden hCloses hRest ih =>
    have hStep : (Place.outside acc).step m n line = .ok ([], .inert closing (line :: acc)) := by
      rw [Place.step_text hStart hEnd, hOpens]
      rfl
    rw [run_cons_silent hStep, run_append_ok (run_hidden hHidden _ _),
      run_cons_silent (Place.step_closing hCloses), ih]
    simp [Except.map]
  | @openRegion line closing hidden hStart hEnd hOpens hHidden =>
    have hStep : (Place.outside acc).step m n line = .ok ([], .inert closing (line :: acc)) := by
      rw [Place.step_text hStart hEnd, hOpens]
      rfl
    rw [run_cons_silent hStep, run_hidden hHidden]
    simp [Place.ofText]

/-! ### Directives -/

theorem joinedText_singleton (piece : List Char) : joinedText [piece] = piece := by
  cases piece <;> simp [joinedText]

theorem intercalate_concat {sep : List Char} {parts : List (List Char)} (h : parts ≠ [])
    (part : List Char) :
    sep.intercalate (parts ++ [part]) = sep.intercalate parts ++ (sep ++ part) := by
  induction parts with
  | nil => exact absurd rfl h
  | cons first parts ih =>
    by_cases hParts : parts = []
    · rw [hParts, List.singleton_append, List.intercalate_cons_cons, List.intercalate_singleton,
        List.intercalate_singleton, List.append_assoc]
    · rw [List.cons_append, List.intercalate_cons_of_ne_nil (by simp), ih hParts,
        List.intercalate_cons_of_ne_nil hParts]
      simp

/-- Contributions that are not empty join to a text that is not. -/
theorem joinedText_ne_nil {pieces : List (List Char)} (h : pieces.filter (!·.isEmpty) ≠ []) :
    joinedText pieces ≠ [] := by
  rw [joinedText]
  have hMem : ∀ p ∈ pieces.filter (!·.isEmpty), p ≠ [] := by
    intro p hp
    simpa using (List.mem_filter.1 hp).2
  cases hFilter : pieces.filter (!·.isEmpty) with
  | nil => exact absurd hFilter h
  | cons first rest =>
    rw [hFilter] at hMem
    have hFirst := hMem first (List.mem_cons_self ..)
    cases rest with
    | nil => simpa [List.intercalate_singleton] using hFirst
    | cons second rest =>
      rw [List.intercalate_cons_cons]
      simp

/-- One more contribution is joined by a space unless one of both sides is empty. -/
theorem pending_join (n : Nat) (pieces : List (List Char)) (piece : List Char) :
    Pending.join ⟨n, joinedText pieces⟩ piece = ⟨n, joinedText (pieces ++ [piece])⟩ := by
  cases piece with
  | nil => simp [Pending.join, joinedText]
  | cons c piece =>
    have hConcat : (pieces ++ [c :: piece]).filter (!·.isEmpty) =
        pieces.filter (!·.isEmpty) ++ [c :: piece] := by
      simp
    by_cases hPieces : pieces.filter (!·.isEmpty) = []
    · simp [Pending.join, joinedText, hPieces]
    · have hText := joinedText_ne_nil hPieces
      rw [Pending.join, if_neg (by simp), if_neg (by simpa using hText)]
      rw [joinedText, joinedText, hConcat, intercalate_concat hPieces]
      rfl

/-- A text of trimmed contributions is trimmed. -/
theorem noBlankEnds_joinedText {pieces : List (List Char)}
    (h : ∀ p ∈ pieces, Text.NoBlankEnds p) : Text.NoBlankEnds (joinedText pieces) := by
  rw [joinedText]
  have hMem : ∀ p ∈ pieces.filter (!·.isEmpty), p ≠ [] ∧ Text.NoBlankEnds p := by
    intro p hp
    obtain ⟨hp, hNonempty⟩ := List.mem_filter.1 hp
    exact ⟨by simpa using hNonempty, h p hp⟩
  generalize pieces.filter (!·.isEmpty) = parts at hMem
  constructor
  · -- the text begins with the first contribution
    intro c hc
    match parts with
    | [] => cases hc
    | [first] =>
      rw [List.intercalate_singleton] at hc
      exact (hMem first (List.mem_cons_self ..)).2.1 c hc
    | first :: second :: rest =>
      obtain ⟨hFirst, hTrimmed⟩ := hMem first (List.mem_cons_self ..)
      obtain ⟨d, first, rfl⟩ := List.exists_cons_of_ne_nil hFirst
      rw [List.intercalate_cons_cons] at hc
      exact hTrimmed.1 c hc
  · -- and ends with the last one
    intro c hc
    rcases List.eq_nil_or_concat parts with rfl | ⟨front, last, rfl⟩
    · cases hc
    · rw [List.concat_eq_append] at hc hMem
      obtain ⟨hLast, hTrimmed⟩ := hMem last (by simp)
      by_cases hFront : front = []
      · rw [hFront, List.nil_append, List.intercalate_singleton] at hc
        exact hTrimmed.2 c hc
      · rw [intercalate_concat hFront, ← List.append_assoc,
          List.getLast?_append_of_ne_nil _ hLast] at hc
        exact hTrimmed.2 c hc

theorem noBlankEnds_piece (line : List Char) : Text.NoBlankEnds (m.piece line) := by
  apply Text.noBlankEnds_trimEnd
  intro c hc
  apply (Text.noBlankEnds_trim (Text.lineBody line)).1 c
  obtain ⟨rest, hRest⟩ := List.take_prefix
    ((trimmedLine line).length - m.continuation.toList.length) (trimmedLine line)
  rw [show Text.trim (Text.lineBody line) = trimmedLine line from rfl, ← hRest,
    List.head?_append, hc]
  rfl

/-- Nothing of a directive is left to trim once its lines are joined. -/
theorem finish_joined (n : Nat) (front : List (List Char)) (last : List Char) :
    Pending.finish ⟨n, joinedText (front.map m.piece ++ [trimmedLine last])⟩ =
      directiveOf m n front last := by
  rw [Pending.finish, Text.trim_of_noBlankEnds, directiveOf]
  apply noBlankEnds_joinedText
  intro p hp
  rcases List.mem_append.1 hp with hp | hp
  · obtain ⟨line, -, rfl⟩ := List.mem_map.1 hp
    exact noBlankEnds_piece line
  · rw [List.mem_singleton.1 hp]
    exact Text.noBlankEnds_trim _

/-- The directive that is pending after some contributions, the first of them from line `n`. -/
def pendingOf (n : Nat) (pieces : List (List Char)) : Option Pending :=
  if pieces = [] then none else some ⟨n, joinedText pieces⟩

theorem pendingOf_join (n : Nat) (pieces : List (List Char)) (piece : List Char) :
    ((pendingOf n pieces).map (·.join piece)).getD ⟨n + pieces.length, piece⟩ =
      ⟨n, joinedText (pieces ++ [piece])⟩ := by
  rw [pendingOf]
  split
  · next h => simp [h, joinedText_singleton]
  · exact pending_join n pieces piece

theorem trimmedLine_ne_nil_of_continues {line : List Char} (h : m.Continues line) :
    trimmedLine line ≠ [] := by
  intro hBlank
  obtain ⟨hMarker, hSuffix⟩ := h
  rw [hBlank, List.suffix_nil] at hSuffix
  exact hMarker hSuffix

variable (start : Nat) (acc : List DirectiveLine)

theorem step_continues (n : Nat) (pieces : List (List Char)) {line : List Char}
    (hEnd : ¬ m.IsEnd line) (h : m.Continues line) :
    (Place.inside start acc (pendingOf n pieces)).step m (n + pieces.length) line =
      .ok ([], .inside start acc (pendingOf n (pieces ++ [m.piece line]))) := by
  have hNonblank : (trimmedLine line).isEmpty = false := by
    simpa using trimmedLine_ne_nil_of_continues h
  rw [Place.step_directive hEnd]
  simp only [scanDirective, hNonblank, Bool.false_and, Bool.false_eq_true, if_false,
    Markers.continued?_of_continues h, pendingOf_join]
  simp [pendingOf]

theorem step_lastLine (n : Nat) (pieces : List (List Char)) {line : List Char}
    (hEnd : ¬ m.IsEnd line) (h : ¬ m.Continues line)
    (hFirst : pieces = [] → trimmedLine line ≠ []) :
    (Place.inside start acc (pendingOf n pieces)).step m (n + pieces.length) line =
      .ok ([], .inside start
        (Pending.finish ⟨n, joinedText (pieces ++ [trimmedLine line])⟩ :: acc) none) := by
  have hCounts : ((trimmedLine line).isEmpty && (pendingOf n pieces).isNone) = false := by
    by_cases hPieces : pieces = []
    · have := hFirst hPieces
      simp [this]
    · simp [pendingOf, hPieces]
  rw [Place.step_directive hEnd]
  simp only [scanDirective, hCounts, Bool.false_eq_true, if_false,
    Markers.continued?_of_not_continues h, pendingOf_join]

theorem step_blank {n : Nat} {line : List Char} (hEnd : ¬ m.IsEnd line)
    (h : trimmedLine line = []) :
    (Place.inside start acc none).step m n line = .ok ([], .inside start acc none) := by
  rw [Place.step_directive hEnd, h]
  rfl

theorem run_continued {front : List (List Char)} (hEnd : ∀ l ∈ front, ¬ m.IsEnd l)
    (h : ∀ l ∈ front, m.Continues l) (n : Nat) (pieces : List (List Char)) :
    (Place.inside start acc (pendingOf n pieces)).run m (n + pieces.length) front =
      .ok ([], .inside start acc (pendingOf n (pieces ++ front.map m.piece))) := by
  -- what is pending depends on the contributions so far, which the induction carries along
  induction front generalizing pieces with
  | nil => simp [Place.run]
  | cons line rest ih =>
    have hStep := step_continues start acc n pieces
      (hEnd line (List.mem_cons_self ..)) (h line (List.mem_cons_self ..))
    have hRest := ih (fun l hl => hEnd l (List.mem_cons_of_mem _ hl))
      (fun l hl => h l (List.mem_cons_of_mem _ hl)) (pieces ++ [m.piece line])
    rw [List.length_append, List.length_singleton, ← Nat.add_assoc] at hRest
    rw [run_cons_silent hStep, hRest]
    simp

/-- The lines inside a block make their directives and complete nothing. -/
theorem run_directives {n : Nat} {body : List (List Char)} {directives : List DirectiveLine}
    (h : Directives m n body directives) (hEnd : ∀ l ∈ body, ¬ m.IsEnd l) :
    (Place.inside start acc none).run m n body =
      .ok ([], .inside start (directives.reverse ++ acc) none) := by
  induction h generalizing acc with
  | nil => rfl
  | @blank n line rest directives hBlank hRest ih =>
    rw [run_cons_silent (step_blank start acc (hEnd line (List.mem_cons_self ..)) hBlank),
      ih _ fun l hl => hEnd l (List.mem_cons_of_mem _ hl)]
  | @directive n front last rest directives hFront hLast hFirst hRest ih =>
    have hContinued := run_continued start acc
      (fun l hl => hEnd l (List.mem_append_left _ hl)) hFront n []
    have hStep := step_lastLine start acc n (front.map m.piece)
      (hEnd last (by simp)) hLast (by simpa using hFirst)
    rw [List.length_map] at hStep
    rw [show pendingOf n [] = none from rfl, List.length_nil, Nat.add_zero,
      List.nil_append] at hContinued
    rw [run_append_ok hContinued, run_cons_silent hStep, finish_joined,
      ih _ fun l hl => hEnd l (by simp [hl])]
    simp [Except.map]

/-- A block is scanned to itself, after the text before it. -/
theorem run_block {n : Nat} {first last : List Char} {body : List (List Char)}
    {directives : List DirectiveLine} (hStart : m.IsStart first)
    (hBody : ∀ l ∈ body, ¬ m.IsEnd l) (hEnd : m.IsEnd last)
    (hDirectives : Directives m (n + 1) body directives) (text : List (List Char)) :
    (Place.outside text).run m n (first :: (body ++ [last])) =
      .ok (textSegment text ++ [.block ⟨n, directives⟩], .outside []) := by
  rw [run_cons_ok (Place.step_start hStart),
    run_append_ok (run_directives n [] hDirectives hBody), run_cons_ok (Place.step_end hEnd)]
  simp [Place.run, Except.map]

/-! ### Tiled lines -/

theorem glue_nil_right (segments : List Segment) : glue segments [] = segments := by
  match segments with
  | [] => rfl
  | [.text t] => rfl
  | .text t :: s :: segments => rw [glue_text_cons, glue_nil_right (s :: segments)]
  | .block b :: segments => rw [glue_block, glue_nil_right segments]

/-- **Scans of tiled lines.** Lines that are tiled are scanned to their segments. Lines after them
are scanned as if they were on their own, unless an inert region is still open there. -/
theorem scanFrom_tiling_append {n : Nat} {spans : List (List (List Char))}
    {segments : List Segment} {waiting : Option (List Char)}
    (h : Tiling m n spans segments waiting) {rest : List (List Char)}
    (hClosed : waiting = none ∨ rest = []) :
    scanFrom m n (.outside []) (spans.flatten ++ rest) =
      (scanFrom m (n + spans.flatten.length) (.outside []) rest).map (glue segments) := by
  induction h with
  | done =>
    rw [List.flatten_nil, List.nil_append, List.length_nil, Nat.add_zero]
    cases scanFrom m _ (.outside []) rest <;> rfl
  | @text n span spans segments waiting hSpan hText hRest hNext ih =>
    have hScan := scanFrom_append (run_verbatim hText n []) (spans.flatten ++ rest)
    have hCarried := scanFrom_ofText (m := m) (n + span.length) none [] span.reverse
      (spans.flatten ++ rest)
    simp only [Place.ofText, List.nil_append, List.append_nil] at hScan hCarried
    rw [List.flatten_cons, List.append_assoc, hScan, hCarried, ih hClosed, List.length_append,
      textSegment_of_ne_nil (by simpa using hSpan), List.reverse_reverse, ← Nat.add_assoc]
    -- text glued to a block stays apart, and glued to nothing it waits for the text that follows
    cases scanFrom m (n + span.length + spans.flatten.length) (.outside []) rest with
    | error e => rfl
    | ok later => exact congrArg Except.ok (glue_text_glue hNext later)
  | @openText n span closing hText =>
    -- an open region takes all lines, so there is nothing after them
    obtain rfl : rest = [] := by simpa using hClosed
    have hScan := scanFrom_append (run_verbatim hText n []) []
    have hSpan : span ≠ [] := by
      rintro rfl
      cases hText
    rw [List.flatten_singleton, hScan, scanFrom_nil, scanFrom_nil, finish_ofText, List.append_nil,
      textSegment_of_ne_nil (by simpa using hSpan), List.reverse_reverse]
    rfl
  | @block n first body last directives spans segments waiting hStart hBody hEnd hDirectives hRest
      ih =>
    have hScan := scanFrom_append (run_block hStart hBody hEnd hDirectives [])
      (spans.flatten ++ rest)
    rw [List.flatten_cons, List.append_assoc, hScan]
    simp only [List.length_cons, List.length_append, List.length_nil]
    rw [show n + (body.length + (0 + 1) + 1) = n + (body.length + 2) by omega, ih hClosed,
      show n + (body.length + (0 + 1) + 1 + spans.flatten.length) =
        n + (body.length + 2) + spans.flatten.length by omega]
    cases scanFrom m (n + (body.length + 2) + spans.flatten.length) (.outside []) rest with
    | error e => rfl
    | ok later => simp [Except.map]

theorem scanFrom_tiling {n : Nat} {spans : List (List (List Char))} {segments : List Segment}
    {waiting : Option (List Char)} (h : Tiling m n spans segments waiting) :
    scanFrom m n (.outside []) spans.flatten = .ok segments := by
  have hScan : scanFrom m n (.outside []) (spans.flatten ++ []) = _ :=
    scanFrom_tiling_append h (Or.inr rfl)
  rw [List.append_nil, scanFrom_nil] at hScan
  rw [hScan]
  exact congrArg Except.ok (glue_nil_right segments)

/-- A fault is what a scan reports. -/
theorem scanFrom_fault {n : Nat} {lines : List (List Char)} {e : ScanError}
    (h : Fault m n lines e) : scanFrom m n (.outside []) lines = .error e := by
  cases h with
  | strayEnd hStart hEnd => exact scanFrom_cons_error (Place.step_strayEnd hStart hEnd) _
  | @dangling first body front rest directives hStart hBody hDirectives hFront hPending hRest =>
    have hDirectivesRun := run_directives n [] hDirectives fun l hl =>
      hBody l (List.mem_append_left _ hl)
    have hFrontRun := run_continued n (directives.reverse ++ [])
      (fun l hl => hBody l (List.mem_append_right _ hl)) hFront (n + 1 + body.length) []
    have hPieces : front.map m.piece ≠ [] := by simpa using hPending
    rw [List.nil_append, pendingOf, pendingOf, if_pos rfl, if_neg hPieces, List.length_nil,
      Nat.add_zero] at hFrontRun
    rw [scanFrom_cons_ok (Place.step_start hStart), scanFrom_append hDirectivesRun,
      scanFrom_append hFrontRun]
    cases rest with
    | nil =>
      rw [scanFrom_nil]
      rfl
    | cons line rest =>
      rw [scanFrom_cons_error (Place.step_dangling (hRest line rfl))]
      rfl
  | @unterminated first body directives hStart hBody hDirectives =>
    have hRun := run_directives n [] hDirectives hBody
    have hScan := scanFrom_append hRun []
    rw [List.append_nil] at hScan
    rw [scanFrom_cons_ok (Place.step_start hStart), hScan, scanFrom_nil]
    rfl

end Spans

/-! ## Every source is tiled up to its end or to a fault -/

section Decomposition

variable {m : Markers}

/-- Lines begin with text, which ends with them or, outside of inert regions, before a marker. -/
theorem exists_verbatim (m : Markers) :
    ∀ lines : List (List Char), ∃ span waiting rest, lines = span ++ rest ∧
      Verbatim m span waiting ∧ (waiting = none ∨ rest = []) ∧
      ∀ l, rest.head? = some l → m.IsStart l ∨ m.IsEnd l
  | [] => ⟨[], none, [], rfl, .nil, Or.inl rfl, by simp⟩
  | line :: more => by
    by_cases hStart : m.IsStart line
    · exact ⟨[], none, line :: more, rfl, .nil, Or.inl rfl, by simp [hStart]⟩
    by_cases hEnd : m.IsEnd line
    · exact ⟨[], none, line :: more, rfl, .nil, Or.inl rfl, by simp [hEnd]⟩
    cases hOpens : m.opensInert? (Text.lineBody line) with
    | none =>
      obtain ⟨span, waiting, rest, rfl, hText, hClosed, hMarker⟩ := exists_verbatim m more
      exact ⟨line :: span, waiting, rest, rfl, .line hStart hEnd hOpens hText, hClosed, hMarker⟩
    | some closing =>
      -- no line of the region counts as a marker, so the search goes on after its last line
      rcases split_first (closing <:+: Text.lineBody ·) more with
        hHidden | ⟨hidden, last, after, hMore, hHidden, hCloses⟩
      · exact ⟨line :: more, some closing, [], by simp, .openRegion hStart hEnd hOpens hHidden,
          Or.inr rfl, by simp⟩
      · obtain ⟨span, waiting, rest, rfl, hText, hClosed, hMarker⟩ :=
          exists_verbatim m after
        exact ⟨line :: (hidden ++ last :: span), waiting, rest, by simp [hMore],
          .region hStart hEnd hOpens hHidden hCloses hText, hClosed, hMarker⟩
  termination_by lines => lines.length
  decreasing_by
    · simp
    · simp only [hMore, List.length_append, List.length_cons]
      omega

/-- Lines inside a block make directives, up to one that is still pending after the last line. -/
theorem exists_directives (m : Markers) (n : Nat) :
    ∀ lines : List (List Char), ∃ body front directives, lines = body ++ front ∧
      Directives m n body directives ∧ ∀ l ∈ front, m.Continues l
  | [] => ⟨[], [], [], rfl, .nil, by simp⟩
  | line :: more => by
    by_cases hBlank : trimmedLine line = []
    · obtain ⟨body, front, directives, rfl, hBody, hFront⟩ := exists_directives m (n + 1) more
      exact ⟨line :: body, front, directives, rfl, .blank hBlank hBody, hFront⟩
    rcases split_first (¬ m.Continues ·) (line :: more) with
      hAll | ⟨before, last, after, hLines, hBefore, hLast⟩
    · exact ⟨[], line :: more, [], rfl, .nil, fun l hl => not_not.1 (hAll l hl)⟩
    · obtain ⟨body, front, directives, rfl, hBody, hFront⟩ :=
        exists_directives m (n + before.length + 1) after
      refine ⟨before ++ last :: body, front, _, by simp [hLines], .directive
        (fun l hl => not_not.1 (hBefore l hl)) hLast ?_ hBody, hFront⟩
      -- a directive of one line begins with the line that is not blank
      rintro rfl
      obtain ⟨rfl, -⟩ := List.cons.inj hLines
      exact hBlank
  termination_by lines => lines.length
  decreasing_by
    · simp
    · simp only [hLines, List.length_append, List.length_cons]
      omega

/-- Lines, the first of which is numbered `n`, that are tiled, or of which a tiled part is followed
by a fault. -/
inductive Parsed (m : Markers) (n : Nat) (lines : List (List Char)) : Prop
  | tiled {spans segments waiting} (hLines : lines = spans.flatten)
      (hTiling : Tiling m n spans segments waiting) : Parsed m n lines
  | faulty {spans segments rest e} (hLines : lines = spans.flatten ++ rest)
      (hTiling : Tiling m n spans segments none)
      (hFault : Fault m (n + spans.flatten.length) rest e) : Parsed m n lines

theorem parsed_of_fault {n : Nat} {lines : List (List Char)} {e : ScanError}
    (h : Fault m n lines e) : Parsed m n lines :=
  .faulty (List.nil_append lines).symm .done h

/-- Text does not begin with a marker. -/
theorem verbatim_head {span : List (List Char)} {waiting : Option (List Char)}
    (h : Verbatim m span waiting) {l : List Char} (hHead : span.head? = some l) :
    ¬ m.IsStart l ∧ ¬ m.IsEnd l := by
  cases h with
  | nil => cases hHead
  | line hStart hEnd => cases hHead; exact ⟨hStart, hEnd⟩
  | region hStart hEnd => cases hHead; exact ⟨hStart, hEnd⟩
  | openRegion hStart hEnd => cases hHead; exact ⟨hStart, hEnd⟩

theorem tiling_head {n : Nat} {spans : List (List (List Char))} {segments : List Segment}
    {waiting : Option (List Char)} (h : Tiling m n spans segments waiting)
    (hMarker : ∀ l, spans.flatten.head? = some l → m.IsStart l ∨ m.IsEnd l) (t : String) :
    segments.head? ≠ some (.text t) := by
  intro hSegments
  have hText {span : List (List Char)} {tail : List (List (List Char))}
      {open? : Option (List Char)} (hVerbatim : Verbatim m span open?) (hSpan : span ≠ [])
      (hHead : ∀ l, (span :: tail).flatten.head? = some l → m.IsStart l ∨ m.IsEnd l) : False := by
    obtain ⟨l, rest, rfl⟩ := List.exists_cons_of_ne_nil hSpan
    obtain ⟨hStart, hEnd⟩ := verbatim_head hVerbatim rfl
    rcases hHead l rfl with h | h
    · exact hStart h
    · exact hEnd h
  cases h with
  | done => cases hSegments
  | text hSpan hVerbatim => exact hText hVerbatim hSpan hMarker
  | openText hVerbatim => exact hText hVerbatim (by rintro rfl; cases hVerbatim) hMarker
  | block => cases hSegments

theorem parsed_text {n : Nat} {span lines : List (List Char)} (hText : Verbatim m span none)
    (hMarker : ∀ l, lines.head? = some l → m.IsStart l ∨ m.IsEnd l)
    (h : Parsed m (n + span.length) lines) : Parsed m n (span ++ lines) := by
  by_cases hSpan : span = []
  · rw [hSpan, List.length_nil, Nat.add_zero] at h
    rwa [hSpan]
  cases h with
  | @tiled spans segments waiting hLines hTiling =>
    subst hLines
    exact .tiled List.flatten_cons.symm
      (.text hSpan hText hTiling (tiling_head hTiling hMarker))
  | @faulty spans segments rest e hLines hTiling hFault =>
    have hHead : ∀ l, spans.flatten.head? = some l → m.IsStart l ∨ m.IsEnd l := by
      intro l hl
      apply hMarker
      rw [hLines, List.head?_append, hl]
      rfl
    have hAll : span ++ lines = (span :: spans).flatten ++ rest := by
      rw [hLines, List.flatten_cons, List.append_assoc]
    have hFault' : Fault m (n + (span :: spans).flatten.length) rest e := by
      rwa [List.flatten_cons, List.length_append, ← Nat.add_assoc]
    exact .faulty hAll (.text hSpan hText hTiling (tiling_head hTiling hHead)) hFault'

theorem parsed_block {n : Nat} {first last : List Char} {body after : List (List Char)}
    {directives : List DirectiveLine} (hStart : m.IsStart first)
    (hBody : ∀ l ∈ body, ¬ m.IsEnd l) (hEnd : m.IsEnd last)
    (hDirectives : Directives m (n + 1) body directives)
    (h : Parsed m (n + (body.length + 2)) after) :
    Parsed m n (first :: (body ++ last :: after)) := by
  have hSpan (tail : List (List Char)) :
      first :: (body ++ last :: tail) = (first :: (body ++ [last])) ++ tail := by
    simp
  cases h with
  | @tiled spans segments waiting hLines hTiling =>
    rw [hSpan, hLines]
    exact .tiled List.flatten_cons.symm (.block hStart hBody hEnd hDirectives hTiling)
  | @faulty spans segments rest e hLines hTiling hFault =>
    have hAll : first :: (body ++ last :: after) =
        ((first :: (body ++ [last])) :: spans).flatten ++ rest := by
      rw [hSpan, hLines, List.flatten_cons, List.append_assoc]
    have hLength : n + ((first :: (body ++ [last])) :: spans).flatten.length =
        n + (body.length + 2) + spans.flatten.length := by
      simp only [List.flatten_cons, List.length_append, List.length_cons, List.length_nil]
      omega
    rw [← hLength] at hFault
    exact .faulty hAll (.block hStart hBody hEnd hDirectives hTiling) hFault

/-- A block goes on to its end marker, or else to the end of the lines. Lines that begin with it are
tiled up to a fault if those after an end marker are. -/
theorem parsed_of_isStart {n : Nat} {marker : List Char} {more : List (List Char)}
    (hStart : m.IsStart marker)
    (hLater : ∀ k after, after.length < more.length → Parsed m k after) :
    Parsed m n (marker :: more) := by
  rcases split_first m.IsEnd more with hOpen | ⟨inner, last, after, hMore, hInner, hEnd⟩
  · -- without an end marker it is a fault, whether or not a directive is pending
    obtain ⟨body, front, directives, rfl, hBody, hFront⟩ := exists_directives m (n + 1) more
    by_cases hPending : front = []
    · subst hPending
      rw [List.append_nil] at hOpen ⊢
      exact parsed_of_fault (.unterminated hStart hOpen hBody)
    · have hFault : Fault m n (marker :: (body ++ (front ++ []))) _ :=
        .dangling hStart hOpen hBody hFront hPending (by simp)
      rw [List.append_nil] at hFault
      exact parsed_of_fault hFault
  · obtain ⟨body, front, directives, rfl, hBody, hFront⟩ := exists_directives m (n + 1) inner
    by_cases hPending : front = []
    · subst hPending
      rw [List.append_nil] at hInner hMore
      have hShorter : after.length < more.length := by
        rw [hMore, List.length_append, List.length_cons]
        omega
      rw [hMore]
      exact parsed_block hStart hInner hEnd hBody (hLater (n + (body.length + 2)) after hShorter)
    · have hFault : Fault m n (marker :: (body ++ (front ++ last :: after))) _ :=
        .dangling hStart hInner hBody hFront hPending (by simp [hEnd])
      rw [hMore, List.append_assoc]
      exact parsed_of_fault hFault

/-- **Decomposition.** Lines are tiled, or a tiled part of them is followed by a fault. -/
theorem tiling_or_fault (m : Markers) (n : Nat) (lines : List (List Char)) : Parsed m n lines := by
  -- by the number of lines: text may take none of them away, but a block takes its marker at least
  induction hLength : lines.length using Nat.strongRecOn generalizing n lines with
  | ind size ih =>
    obtain ⟨span, waiting, rest, hLines, hText, hClosed, hMarker⟩ := exists_verbatim m lines
    cases rest with
    | nil =>
      rw [List.append_nil] at hLines
      subst hLines
      cases waiting with
      | some closing => exact .tiled List.flatten_singleton.symm (.openText hText)
      | none =>
        rw [← List.append_nil lines]
        exact parsed_text hText (by simp) (.tiled List.flatten_nil.symm .done)
    | cons marker more =>
      obtain rfl : waiting = none := by simpa using hClosed
      subst hLines
      refine parsed_text hText hMarker ?_
      by_cases hStart : m.IsStart marker
      · apply parsed_of_isStart hStart
        intro k after hAfter
        have hSmaller : after.length < size := by
          rw [← hLength, List.length_append, List.length_cons]
          omega
        exact ih after.length hSmaller k after rfl
      · have hEnd : m.IsEnd marker := (hMarker marker rfl).resolve_left hStart
        exact parsed_of_fault (.strayEnd hStart hEnd)

end Decomposition

/-! ## Scans and tilings -/

theorem tiling_text_ne_empty {m : Markers} {n : Nat} {spans : List (List (List Char))}
    {segments : List Segment} {waiting : Option (List Char)}
    (h : Tiling m n spans segments waiting) (hLines : ∀ l ∈ spans.flatten, l ≠ []) (t : String)
    (hText : .text t ∈ segments) : t ≠ "" := by
  have hSpan {span : List (List Char)} {tail : List (List (List Char))} (hSpan : span ≠ [])
      (hLines : ∀ l ∈ (span :: tail).flatten, l ≠ []) : String.ofList span.flatten ≠ "" := by
    obtain ⟨l, rest, rfl⟩ := List.exists_cons_of_ne_nil hSpan
    have hLine := hLines l (by simp)
    simp [← String.toList_inj, hLine]
  induction h with
  | done => cases hText
  | text hSpanNe hVerbatim hRest hNext ih =>
    rcases List.mem_cons.1 hText with hHead | hTail
    · cases hHead
      exact hSpan hSpanNe hLines
    · exact ih (fun l hl => hLines l (by simp [hl])) hTail
  | openText hVerbatim =>
    cases List.mem_singleton.1 hText
    exact hSpan (by rintro rfl; cases hVerbatim) hLines
  | block hStart hBody hEnd hDirectives hRest ih =>
    rcases List.mem_cons.1 hText with hHead | hTail
    · cases hHead
    · exact ih (fun l hl => hLines l (by simp [hl])) hTail

/-- What a scan finds tiles the source. -/
theorem exists_tiling_of_scan {m : Markers} {source : String} {segments : List Segment}
    (h : m.scan source = .ok segments) :
    ∃ spans waiting, spans.flatten = Text.lines source.toList ∧
      Tiling m 1 spans segments waiting := by
  rw [Markers.scan] at h
  cases tiling_or_fault m 1 (Text.lines source.toList) with
  | @tiled spans found waiting hLines hTiling =>
    rw [hLines, scanFrom_tiling hTiling] at h
    cases h
    exact ⟨spans, waiting, hLines.symm, hTiling⟩
  | @faulty spans found rest e hLines hTiling hFault =>
    rw [hLines, scanFrom_tiling_append hTiling (Or.inl rfl), scanFrom_fault hFault] at h
    cases h

/-- **Lossless tiling.** A scan finds some segments exactly when the physical lines of the source
fall into consecutive spans that these segments stand for; no text among them is empty. -/
theorem scan_eq_ok_iff_tiling {m : Markers} {source : String} {segments : List Segment} :
    m.scan source = .ok segments ↔
      ∃ spans waiting, spans.flatten = Text.lines source.toList ∧
        Tiling m 1 spans segments waiting ∧ ∀ t, .text t ∈ segments → t ≠ "" := by
  constructor
  · intro hScan
    obtain ⟨spans, waiting, hLines, hTiling⟩ := exists_tiling_of_scan hScan
    refine ⟨spans, waiting, hLines, hTiling, tiling_text_ne_empty hTiling ?_⟩
    rw [hLines]
    exact fun _ => Text.ne_nil_of_mem_lines
  · rintro ⟨spans, waiting, hLines, hTiling, -⟩
    rw [Markers.scan, ← hLines]
    exact scanFrom_tiling hTiling

-- a marker in a comment is text, and a directive keeps the number of its first line
example : ({} : Markers).scan "/*\n@@end\n*/\n@@extract\n\nsizeof \\\n\n@@end" =
    .ok [.text "/*\n@@end\n*/\n", .block ⟨4, [⟨6, "sizeof"⟩]⟩] := by
  decide +kernel

end HeaderFacts

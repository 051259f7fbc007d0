import HeaderFacts.Proofs.Composition
import HeaderFacts.Proofs.Words

/-!
# Wrapped directives

A directive may be wrapped between any two of its words: each line but the last ends with the marker
for going on, and the lines are indented and spaced at will. Trimming takes away the blanks around
what a line says, the marker goes with the blanks before it, and joining puts a single space in the
place of a line break. No word is cut into on the way, since a bare word has no blanks and a quoted
one has quotes at its ends. So the joined text has the same words as a single line, with gaps of
other widths, which is all that splitting looks at.

Main definitions:

* `Arg.Solid` — a word that trimming cannot cut into.
* `Arg.Laid` — words that can be wrapped, as they may stand in a line.
* `Shows` — a line that says something between blanks.
* `GoesOn`, `Stops` — the lines of a wrapped directive.

Main results:

* `laid_joined` — the joined text has the words of all lines.
* `scan_block` — the scan of a template around a block.
* `scan_wrapped` — a wrapped directive is scanned and split as if it stood in one line.
-/

namespace HeaderFacts

/-! ## Words in a line -/

namespace Arg

/-- A word that trimming cannot cut into: a bare word has no blanks. -/
def Solid : Arg → Prop
  | bare t => ∀ c ∈ t.toList, Text.isBlank c = false
  | quoted _ => True
  | separator => True

/-- Words that can be wrapped, as they may stand in a line. -/
structure Laid (args : List Arg) (cs : List Char) : Prop where
  spaced : Spaced args cs
  plain : ∀ a ∈ args, a.Plain
  solid : ∀ a ∈ args, a.Solid

theorem written_ne_nil {a : Arg} (h : a.Plain) : a.written ≠ [] := by
  cases a with
  | bare t => exact h.1
  | quoted t => exact List.cons_ne_nil _ _
  | separator => exact List.cons_ne_nil _ _

theorem noBlankEnds_written {a : Arg} (h : a.Solid) : Text.NoBlankEnds a.written := by
  cases a with
  | bare t =>
    exact ⟨fun c hc => h c (List.mem_of_head? hc), fun c hc => h c (List.mem_of_getLast? hc)⟩
  | quoted t =>
    -- a quote stands at both ends
    constructor
    · rintro c ⟨⟩
      decide
    · intro c hc
      rw [written, ← List.cons_append, List.getLast?_concat] at hc
      cases hc
      decide
  | separator =>
    constructor <;> (rintro c ⟨⟩; decide)

theorem ne_nil_of_spaced {args : List Arg} {cs : List Char} (h : Spaced args cs)
    (hPlain : ∀ a ∈ args, a.Plain) : cs ≠ [] := by
  cases h with
  | word a => exact written_ne_nil (hPlain a List.mem_cons_self)
  | gap hNonempty hGap hRest => simp [hNonempty]

theorem noBlankEnds_of_laid {args : List Arg} {cs : List Char} (h : Laid args cs) :
    Text.NoBlankEnds cs := by
  obtain ⟨hSpaced, hPlain, hSolid⟩ := h
  induction hSpaced with
  | word a => exact noBlankEnds_written (hSolid a List.mem_cons_self)
  | @gap a gap args cs hNonempty hGap hRest ih =>
    obtain ⟨hPlainHead, hPlainTail⟩ := List.forall_mem_cons.1 hPlain
    obtain ⟨hSolidHead, hSolidTail⟩ := List.forall_mem_cons.1 hSolid
    exact Text.noBlankEnds_append (noBlankEnds_written hSolidHead) (ih hPlainTail hSolidTail)
      (written_ne_nil hPlainHead) (ne_nil_of_spaced hRest hPlainTail) gap

theorem spaced_append {front back : List Arg} {cs ds : List Char} (hFront : Spaced front cs)
    (hBack : Spaced back ds) : Spaced (front ++ back) (cs ++ ' ' :: ds) := by
  induction hFront with
  | word a =>
    have hSpace : ∀ c ∈ [' '], isGap c = true := by simp [isGap]
    exact .gap (List.cons_ne_nil _ _) hSpace hBack
  | @gap a gap args cs hNonempty hGap hRest ih =>
    have hAll : Spaced (a :: (args ++ back)) (a.written ++ (gap ++ (cs ++ ' ' :: ds))) :=
      .gap hNonempty hGap ih
    simpa using hAll

/-- A space between two parts of a line is a gap. -/
theorem laid_append {front back : List Arg} {cs ds : List Char} (hFront : Laid front cs)
    (hBack : Laid back ds) : Laid (front ++ back) (cs ++ ' ' :: ds) where
  spaced := spaced_append hFront.spaced hBack.spaced
  plain := List.forall_mem_append.2 ⟨hFront.plain, hBack.plain⟩
  solid := List.forall_mem_append.2 ⟨hFront.solid, hBack.solid⟩

theorem split_of_laid {args : List Arg} {cs : List Char} (h : Laid args cs) :
    split (String.ofList cs) = .ok args :=
  split_spaced h.spaced h.plain

end Arg

/-! ## Joined lines -/

/-- A contribution that is not empty is followed by a space if there is anything after it. -/
theorem joinedText_cons {piece : List Char} {pieces : List (List Char)} (hPiece : piece ≠ [])
    (hPieces : ∀ p ∈ pieces, p ≠ []) (hMore : pieces ≠ []) :
    joinedText (piece :: pieces) = piece ++ ' ' :: joinedText pieces := by
  have hTail : pieces.filter (!·.isEmpty) = pieces := by
    apply List.filter_eq_self.2
    intro p hp
    simpa using hPieces p hp
  have hHead : (!piece.isEmpty) = true := by simpa using hPiece
  rw [joinedText, joinedText, List.filter_cons, if_pos hHead, hTail,
    List.intercalate_cons_of_ne_nil hMore]
  simp

theorem ne_nil_of_laid {chunks : List (List Arg)} {pieces : List (List Char)}
    (h : List.Forall₂ Arg.Laid chunks pieces) : ∀ p ∈ pieces, p ≠ [] := by
  induction h with
  | nil => simp
  | cons hChunk hRest ih =>
    exact List.forall_mem_cons.2 ⟨Arg.ne_nil_of_spaced hChunk.spaced hChunk.plain, ih⟩

/-- The joined text of some lines has the words of all of them. -/
theorem laid_joined {chunks : List (List Arg)} {pieces : List (List Char)}
    (h : List.Forall₂ Arg.Laid chunks pieces) {final : List Arg} {piece : List Char}
    (hFinal : Arg.Laid final piece) :
    Arg.Laid (chunks.flatten ++ final) (joinedText (pieces ++ [piece])) := by
  have hPiece : piece ≠ [] := Arg.ne_nil_of_spaced hFinal.spaced hFinal.plain
  induction h with
  | nil =>
    rw [List.nil_append, joinedText_singleton]
    exact hFinal
  | @cons chunk first chunks pieces hChunk hRest ih =>
    have hFirst : first ≠ [] := Arg.ne_nil_of_spaced hChunk.spaced hChunk.plain
    have hPieces : ∀ p ∈ pieces ++ [piece], p ≠ [] := by
      intro p hp
      rcases List.mem_append.1 hp with hp | hp
      · exact ne_nil_of_laid hRest p hp
      · rwa [List.mem_singleton.1 hp]
    rw [List.flatten_cons, List.append_assoc, List.cons_append,
      joinedText_cons hFirst hPieces (by simp)]
    exact Arg.laid_append hChunk ih

/-! ## Physical lines -/

/-- The ending of a line is trimmed with the blanks before it. -/
theorem trimmedLine_eq_trim (line : List Char) : trimmedLine line = Text.trim line := by
  have hDrop (cs : List Char) (c : Char) (hc : Text.isBlank c = true)
      (hLast : cs.getLast? = some c) : Text.trim cs.dropLast = Text.trim cs := by
    obtain ⟨front, rfl⟩ := List.getLast?_eq_some_iff.1 hLast
    rw [List.dropLast_concat, Text.trim_append_blanks (by simpa using hc)]
  have hReturn (cs : List Char) :
      Text.trim (if cs.getLast? = some '\r' then cs.dropLast else cs) = Text.trim cs := by
    split
    · next h => exact hDrop cs '\r' (by decide) h
    · rfl
  rw [trimmedLine, Text.lineBody, hReturn]
  split
  · next h => exact hDrop line '\n' (by decide) h
  · rfl

/-- A line that says something between blanks, to which its ending belongs. -/
def Shows (text line : List Char) : Prop :=
  ∃ before after, line = before ++ text ++ after ∧ (∀ c ∈ before, Text.isBlank c = true) ∧
    ∀ c ∈ after, Text.isBlank c = true

theorem trimmedLine_of_shows {text line : List Char} (h : Shows text line)
    (hEnds : Text.NoBlankEnds text) : trimmedLine line = text := by
  obtain ⟨before, after, rfl, hBefore, hAfter⟩ := h
  rw [trimmedLine_eq_trim, Text.trim_between_blanks hBefore hAfter hEnds]

/-- A line of a wrapped directive after which the directive goes on: some words, and the marker for
going on behind blanks. -/
def GoesOn (args : List Arg) (line : List Char) : Prop :=
  ∃ cs gap, Arg.Laid args cs ∧ (∀ c ∈ gap, Text.isBlank c = true) ∧
    Shows (cs ++ (gap ++ ['\\'])) line

/-- The last line of a wrapped directive: some words. -/
def Stops (args : List Arg) (line : List Char) : Prop :=
  ∃ cs, Arg.Laid args cs ∧ Shows cs line

/-- What a line contributes stands before the marker for going on. -/
theorem piece_of_append {m : Markers} {line text : List Char}
    (h : trimmedLine line = text ++ m.continuation.toList) : m.piece line = Text.trimEnd text := by
  rw [Markers.piece, h]
  simp

/-- A line of a wrapped directive contributes its words, and the directive goes on after it. -/
theorem laid_of_goesOn {m : Markers} (hDefault : m = {}) {args : List Arg} {line : List Char}
    (h : GoesOn args line) :
    Arg.Laid args (m.piece line) ∧ m.Continues line ∧ ¬ m.IsEnd line := by
  obtain ⟨cs, gap, hLaid, hGap, hShows⟩ := h
  have hMarker : m.continuation.toList = ['\\'] := by
    rw [hDefault]
    decide
  have hMarkerEnds : Text.NoBlankEnds ['\\'] := by
    constructor <;> (rintro c ⟨⟩; decide)
  have hWords : Text.NoBlankEnds cs := Arg.noBlankEnds_of_laid hLaid
  have hEnds : Text.NoBlankEnds (cs ++ (gap ++ ['\\'])) :=
    Text.noBlankEnds_append hWords hMarkerEnds
      (Arg.ne_nil_of_spaced hLaid.spaced hLaid.plain) (List.cons_ne_nil _ _) gap
  have hLine : trimmedLine line = cs ++ gap ++ m.continuation.toList := by
    rw [trimmedLine_of_shows hShows hEnds, hMarker, List.append_assoc]
  refine ⟨?_, ⟨by simp [hMarker], cs ++ gap, hLine.symm⟩, ?_⟩
  · rw [piece_of_append hLine, Text.trimEnd_append_blanks hGap, Text.trimEnd_of_noBlankEnds hWords]
    exact hLaid
  · -- the end marker ends in another character
    intro hEnd
    have hLast := congrArg List.getLast? (hLine.symm.trans hEnd)
    rw [hMarker, List.getLast?_concat, hDefault] at hLast
    revert hLast
    decide

theorem laid_of_front {m : Markers} (hDefault : m = {}) {chunks : List (List Arg)}
    {front : List (List Char)} (h : List.Forall₂ GoesOn chunks front) :
    List.Forall₂ Arg.Laid chunks (front.map m.piece) ∧
      (∀ l ∈ front, m.Continues l) ∧ ∀ l ∈ front, ¬ m.IsEnd l := by
  induction h with
  | nil => exact ⟨.nil, by simp, by simp⟩
  | cons hLine hRest ih =>
    obtain ⟨hLaid, hContinues, hNotEnd⟩ := laid_of_goesOn hDefault hLine
    obtain ⟨hLaidRest, hContinuesRest, hNotEndRest⟩ := ih
    exact ⟨.cons hLaid hLaidRest, List.forall_mem_cons.2 ⟨hContinues, hContinuesRest⟩,
      List.forall_mem_cons.2 ⟨hNotEnd, hNotEndRest⟩⟩

/-! ## Blocks in a template -/

/-- A block between two parts of a template, of which the first ends outside of inert regions, is
scanned to its directives, and the parts are scanned as if they stood alone. -/
theorem scan_block {m : Markers} {source : String} {above body below : List (List Char)}
    {first last : List Char} {directives : List DirectiveLine} {segments later : List Segment}
    (hLines : Text.lines source.toList = above ++ first :: (body ++ last :: below))
    (hAbove : m.scan (String.ofList above.flatten) = .ok segments)
    (hClosed : m.endsInert (String.ofList above.flatten) = false)
    (hBelow : m.scan (String.ofList below.flatten) = .ok later)
    (hStart : m.IsStart first) (hBody : ∀ l ∈ body, ¬ m.IsEnd l) (hEnd : m.IsEnd last)
    (hDirectives : Directives m (above.length + 2) body directives) :
    m.scan source =
      .ok (segments ++ .block ⟨above.length + 1, directives⟩ ::
        later.map (·.shift (above.length + body.length + 2))) := by
  obtain ⟨hAboveLines, -, -⟩ := Text.lines_eq_append hLines
  have hSplit : Text.lines source.toList = (above ++ first :: (body ++ [last])) ++ below := by
    rw [hLines]
    simp
  obtain ⟨-, hBelowLines, -⟩ := Text.lines_eq_append hSplit
  obtain ⟨spans, waiting, hSpans, hTiling⟩ := exists_tiling_of_scan hAbove
  have hWaiting : waiting = none := waiting_eq_none hSpans hTiling hClosed
  rw [String.toList_ofList, hAboveLines] at hSpans
  rw [Markers.scan, String.toList_ofList, hBelowLines] at hBelow
  -- the lines below stand behind the lines above and those of the block
  have hRun := run_block (n := 1 + above.length) hStart hBody hEnd
    (by rwa [show 1 + above.length + 1 = above.length + 2 by omega]) []
  have hShift := scanFrom_shift (m := m) (above.length + body.length + 2) 1 (.outside []) below
  have hNumber : 1 + above.length + (first :: (body ++ [last])).length =
      1 + (above.length + body.length + 2) := by
    simp only [List.length_cons, List.length_append, List.length_nil]
    omega
  rw [Markers.scan, hSplit, ← hSpans, List.append_assoc,
    scanFrom_tiling_append hTiling (Or.inl hWaiting), hSpans, scanFrom_append hRun, hNumber]
  rw [show (Place.outside []).shift (above.length + body.length + 2) = .outside [] from rfl,
    hBelow] at hShift
  have hGlue := glue_append_block [] (later.map (·.shift (above.length + body.length + 2))) segments
    ⟨above.length + 1, directives⟩
  rw [glue_nil_right] at hGlue
  rw [hShift, Nat.add_comm 1]
  exact congrArg Except.ok hGlue

/-- **Wrapped directives.** Words that are wrapped over the lines of a block are scanned to one
directive, numbered with the first of these lines, and its text is split and read as the line of the
same words with single spaces between them. -/
theorem scan_wrapped {m : Markers} (hDefault : m = {}) {source : String}
    {above front below : List (List Char)} {first last close : List Char}
    {segments later : List Segment}
    (hLines : Text.lines source.toList = above ++ first :: (front ++ last :: close :: below))
    (hAbove : m.scan (String.ofList above.flatten) = .ok segments)
    (hClosed : m.endsInert (String.ofList above.flatten) = false)
    (hBelow : m.scan (String.ofList below.flatten) = .ok later)
    (hStart : m.IsStart first) (hClose : m.IsEnd close)
    {chunks : List (List Arg)} {final : List Arg}
    (hFront : List.Forall₂ GoesOn chunks front) (hLast : Stops final last)
    (hStops : ¬ m.Continues last) (hNotEnd : ¬ m.IsEnd last) :
    let args := chunks.flatten ++ final
    ∃ text,
      m.scan source =
        .ok (segments ++ .block ⟨above.length + 1, [⟨above.length + 2, text⟩]⟩ ::
          later.map (·.shift (above.length + front.length + 3))) ∧
      Arg.split text = .ok args ∧ Arg.split (Arg.line args) = .ok args ∧
      Directive.ofText text = Directive.ofText (Arg.line args) := by
  intro args
  obtain ⟨hPieces, hGoesOn, hNoEnd⟩ := laid_of_front hDefault hFront
  obtain ⟨cs, hFinal, hShows⟩ := hLast
  have hLastLine : trimmedLine last = cs :=
    trimmedLine_of_shows hShows (Arg.noBlankEnds_of_laid hFinal)
  have hLastWords : trimmedLine last ≠ [] := by
    rw [hLastLine]
    exact Arg.ne_nil_of_spaced hFinal.spaced hFinal.plain
  -- the block holds one directive, over all of its lines
  have hBody : ∀ l ∈ front ++ [last], ¬ m.IsEnd l :=
    List.forall_mem_append.2 ⟨hNoEnd, by simpa using hNotEnd⟩
  have hDirectives : Directives m (above.length + 2) (front ++ [last])
      [directiveOf m (above.length + 2) front last] :=
    .directive hGoesOn hStops (fun _ => hLastWords) .nil
  have hSource : Text.lines source.toList =
      above ++ first :: ((front ++ [last]) ++ close :: below) := by
    rw [hLines]
    simp
  have hScan := scan_block hSource hAbove hClosed hBelow hStart hBody hClose hDirectives
  -- whose text has the words of all of them
  have hLaid : Arg.Laid args (joinedText (front.map m.piece ++ [trimmedLine last])) := by
    rw [hLastLine]
    exact laid_joined hPieces hFinal
  have hText := Arg.split_of_laid hLaid
  have hLine : Arg.split (Arg.line args) = .ok args := Arg.split_line hLaid.plain
  refine ⟨String.ofList (joinedText (front.map m.piece ++ [trimmedLine last])), ?_, hText, hLine, ?_⟩
  · rw [hScan, List.length_append, List.length_singleton, ← Nat.add_assoc]
    rfl
  · rw [Directive.ofText, Directive.ofText, hText, hLine]

/-- A quoted word that ends in a backslash, on an indented line of its own before the marker. -/
theorem scan_wrapped_quoted :
    let source := "a\n@@extract\n\tsizeof  -p \\\n  \"x \\\\\" \\ \n h.h\n@@end\n"
    let args : List Arg := [.bare "sizeof", .bare "-p", .quoted "x \\", .bare "h.h"]
    ∃ text,
      ({} : Markers).scan source = .ok [.text "a\n", .block ⟨2, [⟨3, text⟩]⟩] ∧
      Arg.split text = .ok args ∧ Directive.ofText text = Directive.ofText (Arg.line args) := by
  intro source args
  let above := ["a\n".toList]
  let front := ["\tsizeof  -p \\\n".toList, "  \"x \\\\\" \\ \n".toList]
  let last := " h.h\n".toList
  have hLines : Text.lines source.toList =
      above ++ "@@extract\n".toList :: (front ++ last :: "@@end\n".toList :: []) := by
    decide +kernel
  have hAbove : ({} : Markers).scan (String.ofList above.flatten) = .ok [.text "a\n"] := by
    decide +kernel
  have hClosed : ({} : Markers).endsInert (String.ofList above.flatten) = false := by decide +kernel
  have hStart : ({} : Markers).IsStart "@@extract\n".toList := by
    unfold Markers.IsStart
    decide +kernel
  have hClose : ({} : Markers).IsEnd "@@end\n".toList := by
    unfold Markers.IsEnd
    decide +kernel
  have hStops : ¬ ({} : Markers).Continues last := by
    unfold Markers.Continues
    decide +kernel
  have hNotEnd : ¬ ({} : Markers).IsEnd last := by
    unfold Markers.IsEnd
    decide +kernel
  -- the words, and the lines they stand in
  have hBare (t : String) (hNonempty : t.toList ≠ []) (hSeparator : t.toList ≠ ['-', '-'])
      (hAll : t.toList.all fun c => !Text.isBlank c && !Arg.isGap c && c != '\x22') :
      (Arg.bare t).Plain ∧ (Arg.bare t).Solid := by
    have hChars : ∀ c ∈ t.toList, Text.isBlank c = false ∧ Arg.isGap c = false ∧ c ≠ '\x22' := by
      intro c hc
      have hThis := List.all_eq_true.1 hAll c hc
      simpa [and_assoc] using hThis
    exact ⟨⟨hNonempty, fun c hc => (hChars c hc).2, hSeparator⟩, fun c hc => (hChars c hc).1⟩
  have hBlanks (cs : List Char) (hAll : cs.all Text.isBlank) : ∀ c ∈ cs, Text.isBlank c = true :=
    List.all_eq_true.1 hAll
  have hModule := hBare "sizeof" (by decide) (by decide) (by decide)
  have hFlag := hBare "-p" (by decide) (by decide) (by decide)
  have hHeader := hBare "h.h" (by decide) (by decide) (by decide)
  have hFirst : GoesOn [.bare "sizeof", .bare "-p"] "\tsizeof  -p \\\n".toList := by
    have hSpaced : Arg.Spaced [.bare "sizeof", .bare "-p"] "sizeof  -p".toList :=
      .gap (List.cons_ne_nil ' ' [' ']) (List.all_eq_true.1 rfl) (.word (.bare "-p"))
    have hLaid : Arg.Laid [.bare "sizeof", .bare "-p"] "sizeof  -p".toList :=
      ⟨hSpaced, by simpa using ⟨hModule.1, hFlag.1⟩, by simpa using ⟨hModule.2, hFlag.2⟩⟩
    exact ⟨_, [' '], hLaid, hBlanks _ (by decide), ['\t'], ['\n'], by decide,
      hBlanks _ (by decide), hBlanks _ (by decide)⟩
  have hSecond : GoesOn [.quoted "x \\"] "  \"x \\\\\" \\ \n".toList := by
    have hLaid : Arg.Laid [.quoted "x \\"] "\"x \\\\\"".toList :=
      ⟨.word (.quoted "x \\"), by simp [Arg.Plain], by simp [Arg.Solid]⟩
    exact ⟨_, [' '], hLaid, hBlanks _ (by decide), [' ', ' '], [' ', '\n'], by decide,
      hBlanks _ (by decide), hBlanks _ (by decide)⟩
  have hLast : Stops [.bare "h.h"] last := by
    have hLaid : Arg.Laid [.bare "h.h"] "h.h".toList :=
      ⟨.word (.bare "h.h"), by simpa using hHeader.1, by simpa using hHeader.2⟩
    exact ⟨_, hLaid, [' '], ['\n'], by decide, hBlanks _ (by decide), hBlanks _ (by decide)⟩
  obtain ⟨text, hScan, hText, -, hRead⟩ := scan_wrapped rfl hLines hAbove hClosed rfl hStart hClose
    (.cons hFirst (.cons hSecond .nil)) hLast hStops hNotEnd
  exact ⟨text, hScan, hText, hRead⟩

end HeaderFacts

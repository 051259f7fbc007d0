import HeaderFacts.Dump.Catalog
import HeaderFacts.Proofs.Composition

/-!
# Renderings are fixed points

What a rendering puts in the place of a block are whole lines, and what it keeps of a template are
whole lines too, but for the last one. So the lines of a rendering are those of the text with the
output lines of the blocks in between. The text before a block is closed: a block cannot begin in an
inert region. If the output lines are plain, all lines of the rendering together are text again, and
rendering them once more changes nothing.

Main definitions:

* `Markers.IsPlain` — a line that is text and opens no inert region.
* `Markers.exposed` — the lines outside of inert regions.
* `Engine.Inserts` — the physical lines that blocks put into a rendering.
* `Engine.Emits` — the physical lines of rows, before cells are joined.

Main results:

* `verbatim_of_exposed` — lines without an exposed marker are text.
* `render_of_verbatim` — text is rendered to itself.
* `verbatim_of_renderAll` — a rendering with plain output lines is text.
* `render_idempotent` — a second rendering changes nothing.
* `render_joined_cells` — plain rows whose joined cells are a marker.
-/

namespace HeaderFacts

/-! ## Text -/

section Verbatim

variable {m : Markers}

/-- Text after closed text. -/
theorem verbatim_append {a b : List (List Char)} {waiting : Option (List Char)}
    (ha : Verbatim m a none) (hb : Verbatim m b waiting) : Verbatim m (a ++ b) waiting := by
  generalize hw : (none : Option (List Char)) = w at ha
  induction ha with
  | nil => exact hb
  | line hStart hEnd hOpens hRest ih => exact .line hStart hEnd hOpens (ih hw)
  | @region line closing hidden last rest waiting hStart hEnd hOpens hHidden hCloses hRest ih =>
    have hJoined := Verbatim.region hStart hEnd hOpens hHidden hCloses (ih hw)
    simpa using hJoined
  | openRegion => cases hw

/-- A line that is text and nothing else outside of inert regions: it is no marker, and no region
begins after it. -/
structure Markers.IsPlain (m : Markers) (line : List Char) : Prop where
  not_start : ¬ m.IsStart line
  not_end : ¬ m.IsEnd line
  opens_nothing : m.opensInert? (Text.lineBody line) = none

theorem verbatim_of_plain {lines : List (List Char)} (h : ∀ l ∈ lines, m.IsPlain l) :
    Verbatim m lines none := by
  induction lines with
  | nil => exact .nil
  | cons line rest ih =>
    obtain ⟨hLine, hRest⟩ := List.forall_mem_cons.1 h
    exact .line hLine.not_start hLine.not_end hLine.opens_nothing (ih hRest)

/-- The lines that lie outside of inert regions; `waiting` is the closing delimiter of a region that
the first line lies in. -/
def Markers.exposed (m : Markers) : (waiting : Option (List Char)) → List (List Char) →
    List (List Char)
  | _, [] => []
  | none, line :: rest => line :: m.exposed (m.opensInert? (Text.lineBody line)) rest
  | some closing, line :: rest =>
    m.exposed (if Text.occursIn closing (Text.lineBody line) then none else some closing) rest

theorem exposed_hidden {closing : List Char} {hidden : List (List Char)}
    (h : ∀ l ∈ hidden, ¬ closing <:+: Text.lineBody l) (rest : List (List Char)) :
    m.exposed (some closing) (hidden ++ rest) = m.exposed (some closing) rest := by
  induction hidden with
  | nil => rfl
  | cons line hidden ih =>
    obtain ⟨hLine, hHidden⟩ := List.forall_mem_cons.1 h
    rw [← Text.occursIn_iff] at hLine
    rw [List.cons_append, Markers.exposed, if_neg hLine]
    exact ih hHidden

/-- What comes after closed text is exposed. -/
theorem mem_exposed_of_verbatim {span rest : List (List Char)} {marker : List Char}
    {waiting : Option (List Char)} (h : Verbatim m span waiting) (hClosed : waiting = none) :
    marker ∈ m.exposed none (span ++ marker :: rest) := by
  induction h with
  | nil => exact List.mem_cons_self
  | @line line tail waiting hStart hEnd hOpens hRest ih =>
    rw [List.cons_append, Markers.exposed, hOpens]
    exact List.mem_cons_of_mem _ (ih hClosed)
  | @region line closing hidden last tail waiting hStart hEnd hOpens hHidden hCloses hRest ih =>
    rw [← Text.occursIn_iff] at hCloses
    rw [List.cons_append, Markers.exposed, hOpens, List.append_assoc, exposed_hidden hHidden,
      List.cons_append, Markers.exposed, if_pos hCloses]
    exact List.mem_cons_of_mem _ (ih hClosed)
  | openRegion => cases hClosed

/-- Lines of which no exposed one is a marker are text. -/
theorem verbatim_of_exposed {lines : List (List Char)}
    (h : ∀ l ∈ m.exposed none lines, ¬ m.IsStart l ∧ ¬ m.IsEnd l) :
    ∃ waiting, Verbatim m lines waiting := by
  obtain ⟨span, waiting, rest, rfl, hText, hClosed, hMarker⟩ := exists_verbatim m lines
  cases rest with
  | nil =>
    rw [List.append_nil]
    exact ⟨waiting, hText⟩
  | cons marker rest =>
    -- text ends before a line only if that is a marker
    obtain rfl : waiting = none := by simpa using hClosed
    obtain ⟨hStart, hEnd⟩ := h marker (mem_exposed_of_verbatim hText rfl)
    rcases hMarker marker rfl with hIs | hIs
    · exact absurd hIs hStart
    · exact absurd hIs hEnd

end Verbatim

/-! ## Renderings -/

namespace Engine

variable {e : Engine}

/-- The physical lines that the output lines of blocks put into a rendering. An output line is a row,
or a run of cells joined by commas; one that holds newlines makes several physical lines. -/
def Inserts (e : Engine) (segments : List Segment) (line : List Char) : Prop :=
  ∃ b outputs output, .block b ∈ segments ∧ e.renderBlock b = .ok outputs ∧ output ∈ outputs ∧
    line ∈ Text.lines (output.toList ++ ['\n'])

theorem inserts_cons {s : Segment} {segments : List Segment} {line : List Char}
    (h : e.Inserts segments line) : e.Inserts (s :: segments) line := by
  obtain ⟨b, outputs, output, hBlock, hOutput⟩ := h
  exact ⟨b, outputs, output, List.mem_cons_of_mem s hBlock, hOutput⟩

/-- Text without markers is rendered to itself. -/
theorem render_of_verbatim {source : String} {waiting : Option (List Char)}
    (h : Verbatim e.markers (Text.lines source.toList) waiting) : e.render source = .ok source := by
  have hRun := run_verbatim h 1 []
  have hScan : e.markers.scan source =
      .ok (textSegment (Text.lines source.toList).reverse) := by
    have hAll := scanFrom_append hRun []
    rw [List.append_nil, List.append_nil, scanFrom_nil, finish_ofText] at hAll
    exact hAll
  rw [render_eq_renderAll hScan]
  by_cases hLines : Text.lines source.toList = []
  · have hEmpty : source = "" := by
      rw [← String.toList_eq_nil_iff, ← Text.flatten_lines source.toList, hLines]
      rfl
    rw [hEmpty]
    rfl
  · rw [textSegment_of_ne_nil (by simpa using hLines), renderAll_text]
    simp only [List.reverse_reverse, Text.flatten_lines, String.ofList_toList]
    show Except.ok (source ++ "") = _
    rw [String.append_empty]

/-- The output lines of a block, each ended by a newline. -/
theorem lines_join_outputs (outputs : List String) (rest : List Char) :
    Text.lines ((String.join (outputs.map (· ++ "\n"))).toList ++ rest) =
      (outputs.flatMap fun output => Text.lines (output.toList ++ ['\n'])) ++ Text.lines rest := by
  induction outputs with
  | nil => rfl
  | cons output outputs ih =>
    have hWhole : (output.toList ++ ['\n']).getLast? = some '\n' := by simp
    rw [List.map_cons, String.join_cons, String.toList_append, List.append_assoc,
      String.toList_append, show "\n".toList = ['\n'] from rfl, Text.lines_append (Or.inr hWhole), ih,
      List.flatMap_cons, List.append_assoc]

/-- Segments stand over lines. -/
theorem ne_nil_of_tiling {m : Markers} {n : Nat} {spans : List (List (List Char))}
    {segments : List Segment} {waiting : Option (List Char)} (h : Tiling m n spans segments waiting)
    (hSegments : segments ≠ []) : spans.flatten ≠ [] := by
  cases h with
  | done => exact absurd rfl hSegments
  | text hSpan => simp [hSpan]
  | openText hText => cases hText <;> simp
  | block => simp

theorem renderAll_nil {out : String} (h : e.renderAll [] = .ok out) : out = "" := by
  cases h
  rfl

/-- A rendering of tiled lines is text, where no line that blocks put into it is anything else. -/
theorem verbatim_of_renderAll {n : Nat} {spans : List (List (List Char))} {segments : List Segment}
    {waiting : Option (List Char)} (h : Tiling e.markers n spans segments waiting)
    {source : List Char} (hLines : Text.lines source = spans.flatten) {out : String}
    (hOut : e.renderAll segments = .ok out)
    (hPlain : ∀ line, e.Inserts segments line → e.markers.IsPlain line) :
    Verbatim e.markers (Text.lines out.toList) waiting := by
  induction h generalizing source out with
  | done =>
    rw [renderAll_nil hOut]
    exact .nil
  | @text n span spans segments waiting hSpan hText hRest hNext ih =>
    obtain ⟨hFront, hBack, hWhole⟩ := Text.lines_eq_append (hLines.trans List.flatten_cons)
    rw [renderAll_text] at hOut
    obtain ⟨later, hLater, rfl⟩ := ok_of_map hOut
    have hLaterText : Verbatim e.markers (Text.lines later.toList) waiting :=
      ih hBack hLater fun line hLine => hPlain line (inserts_cons hLine)
    -- the text ends with a whole line unless nothing comes after it
    have hJoined : Text.lines (span.flatten ++ later.toList) = span ++ Text.lines later.toList := by
      by_cases hSegments : segments = []
      · rw [hSegments] at hLater
        simp [renderAll_nil hLater, hFront, Text.lines]
      · rw [Text.lines_append (hWhole (ne_nil_of_tiling hRest hSegments)), hFront]
    rw [String.toList_append, String.toList_ofList, hJoined]
    exact verbatim_append hText hLaterText
  | @openText n span closing hText =>
    have hSpan : Text.lines source = span ++ [] := by simpa using hLines
    obtain ⟨hOwn, -, -⟩ := Text.lines_eq_append hSpan
    cases hOut
    simpa [hOwn] using hText
  | @block n first body last directives spans segments waiting hStart hBody hEnd hDirectives hRest
      ih =>
    obtain ⟨-, hBack, -⟩ := Text.lines_eq_append (hLines.trans List.flatten_cons)
    rw [renderAll_cons] at hOut
    obtain ⟨text, hText, hOut⟩ := ok_of_bind hOut
    obtain ⟨later, hLater, hOut⟩ := ok_of_bind hOut
    cases hOut
    obtain ⟨outputs, hOutputs, hJoined⟩ := ok_of_bind hText
    cases hJoined
    have hInserted : ∀ line ∈ outputs.flatMap fun output => Text.lines (output.toList ++ ['\n']),
        e.markers.IsPlain line := by
      intro line hLine
      obtain ⟨output, hOutput, hLine⟩ := List.mem_flatMap.1 hLine
      exact hPlain line ⟨_, outputs, output, List.mem_cons_self, hOutputs, hOutput, hLine⟩
    have hLaterText : Verbatim e.markers (Text.lines later.toList) waiting :=
      ih hBack hLater fun line hLine => hPlain line (inserts_cons hLine)
    rw [String.toList_append, lines_join_outputs]
    exact verbatim_append (verbatim_of_plain hInserted) hLaterText

/-- **Renderings are fixed points.** A rendering is rendered to itself if no line that its blocks put
into it is a marker or opens an inert region. A template without markers outside of its inert regions
is its own rendering. -/
theorem render_idempotent (e : Engine) (source : String) :
    (∀ segments out, e.markers.scan source = .ok segments → e.render source = .ok out →
      (∀ line, e.Inserts segments line → e.markers.IsPlain line) → e.render out = .ok out) ∧
    ((∀ line ∈ e.markers.exposed none (Text.lines source.toList),
        ¬ e.markers.IsStart line ∧ ¬ e.markers.IsEnd line) →
      e.render source = .ok source) := by
  constructor
  · intro segments out hScan hOut hPlain
    obtain ⟨spans, waiting, hLines, hTiling⟩ := exists_tiling_of_scan hScan
    have hAll : e.renderAll segments = .ok out := by rw [← render_eq_renderAll hScan, hOut]
    exact render_of_verbatim (verbatim_of_renderAll hTiling hLines.symm hAll hPlain)
  · intro hExposed
    obtain ⟨waiting, hText⟩ := verbatim_of_exposed hExposed
    exact render_of_verbatim hText

/-- Two cells of one line between a region that hides an end marker and a line that is not ended. -/
theorem render_idempotent_cells :
    let decls : List Decl := [Decl.macroOf "A" ["A", "1"], Decl.macroOf "B" ["B", "2"]]
    let c : Catalog :=
      { dump := ({ target := "x86_64-unknown-linux-gnu" } : Dump).addHeader "h.h" decls }
    let e : Engine := { service := c.openSession }
    let source := "/* a\n@@end\n*/\n@@extract\nmacro -C h.h\n@@end\nb"
    let out := "/* a\n@@end\n*/\n[A]=1,[B]=2\nb"
    e.render source = .ok out ∧ e.render out = .ok out := by
  intro decls c e source out
  let b : Block := ⟨4, [⟨5, "macro -C h.h"⟩]⟩
  let segments : List Segment := [.text "/* a\n@@end\n*/\n", .block b, .text "b"]
  have hScan : e.markers.scan source = .ok segments := by decide +kernel
  have hOut : e.render source = .ok out := by decide +kernel
  have hBlock : e.renderBlock b = .ok ["[A]=1,[B]=2"] := by decide +kernel
  have hPlain : ∀ line, e.Inserts segments line → e.markers.IsPlain line := by
    rintro line ⟨other, outputs, output, hb, hOutputs, hOutput, hLine⟩
    obtain rfl : other = b := by simpa [segments] using hb
    rw [hBlock] at hOutputs
    cases hOutputs
    obtain rfl : output = "[A]=1,[B]=2" := by simpa using hOutput
    obtain rfl : line = "[A]=1,[B]=2\n".toList := by simpa [Text.lines] using hLine
    exact ⟨by unfold Markers.IsStart; decide +kernel, by unfold Markers.IsEnd; decide +kernel,
      by decide +kernel⟩
  obtain ⟨hAgain, -⟩ := render_idempotent e source
  exact ⟨hOut, hAgain segments out hScan hOut hPlain⟩

/-- The physical lines of the rows that the directives of blocks emit, each row by itself. -/
def Emits (e : Engine) (segments : List Segment) (line : List Char) : Prop :=
  ∃ b emissions emission row, .block b ∈ segments ∧ b.directives.mapM e.evaluate = .ok emissions ∧
    emission ∈ emissions ∧ row ∈ emission.rows ∧ line ∈ Text.lines (row.toList ++ ['\n'])

/-- Rows that are plain one by one are not enough: two cells that no marker is like are joined to a
line that ends blocks. -/
theorem render_joined_cells :
    let decls : List Decl := [Decl.macroOf "A" ["A", "1"], Decl.macroOf "B" ["B", "2"]]
    let c : Catalog :=
      { dump := ({ target := "x86_64-unknown-linux-gnu" } : Dump).addHeader "h.h" decls }
    let e : Engine := { service := c.openSession, markers := { blockEnd := "[A]=1,[B]=2" } }
    let source := "@@extract\nmacro -C h.h\n[A]=1,[B]=2\n"
    let segments : List Segment := [.block ⟨1, [⟨2, "macro -C h.h"⟩]⟩]
    let out := "[A]=1,[B]=2\n"
    e.markers.scan source = .ok segments ∧ e.render source = .ok out ∧
      (∀ line, e.Emits segments line → e.markers.IsPlain line) ∧
      e.render out = .error (.scan (.strayBlockEnd 1)) := by
  intro decls c e source segments out
  have hScan : e.markers.scan source = .ok segments := by decide +kernel
  have hOut : e.render source = .ok out := by decide +kernel
  have hAgain : e.render out = .error (.scan (.strayBlockEnd 1)) := by decide +kernel
  refine ⟨hScan, hOut, ?_, hAgain⟩
  have hEmissions : [(⟨2, "macro -C h.h"⟩ : DirectiveLine)].mapM e.evaluate =
      .ok [{ rows := ["[A]=1", "[B]=2"], composite := true }] := by decide +kernel
  rintro line ⟨b, emissions, emission, row, hb, hMap, hEmission, hRow, hLine⟩
  obtain rfl : b = ⟨1, [⟨2, "macro -C h.h"⟩]⟩ := by simpa [segments] using hb
  rw [hEmissions] at hMap
  cases hMap
  obtain rfl : emission = { rows := ["[A]=1", "[B]=2"], composite := true } := by
    simpa using hEmission
  obtain rfl | rfl : row = "[A]=1" ∨ row = "[B]=2" := by simpa using hRow
  all_goals
    obtain rfl : line = _ := by simpa [Text.lines] using hLine
    exact ⟨by unfold Markers.IsStart; decide +kernel, by unfold Markers.IsEnd; decide +kernel,
      by decide +kernel⟩

end Engine

end HeaderFacts

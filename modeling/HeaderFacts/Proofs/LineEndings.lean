import HeaderFacts.Proofs.Scanning
import Mathlib.Data.List.Basic

/-!
# Line endings

A template may end its lines with a newline or with a carriage return and a newline. A scan tells
lines apart by what stands in front of the ending, so both kinds of ending lead to the same blocks
and the same faults, and text keeps the endings that it has.

Main definitions:

* `Text.crlf` — a text with a carriage return in front of each newline.
* `Segment.crlf`, `Place.crlf` — a segment and a place with these endings.

Main results:

* `Text.lines_crlf` — the lines are the same, but for their endings.
* `Text.lineBody_crlf` — a line without its ending is the same.
* `step_crlf` — a line does the same.
* `scan_crlf` — a template is scanned to the same segments, but for the endings in its text.
-/

namespace HeaderFacts

/-! ## Endings -/

namespace Text

/-- A text in which a carriage return and a newline stand for each newline. -/
def crlf (text : List Char) : List Char :=
  replaceAll ['\n'] ['\r', '\n'] text

@[simp] theorem crlf_nil : crlf [] = [] := rfl

theorem crlf_newline (text : List Char) : crlf ('\n' :: text) = '\r' :: '\n' :: crlf text :=
  replaceAll_append ['\r', '\n'] text (List.cons_ne_nil '\n' [])

theorem crlf_cons {c : Char} (h : c ≠ '\n') (text : List Char) :
    crlf (c :: text) = c :: crlf text := by
  apply replaceAll_cons
  intro hPrefix
  exact h (List.cons_prefix_cons.1 hPrefix).1.symm

theorem crlf_append (s t : List Char) : crlf (s ++ t) = crlf s ++ crlf t := by
  induction s with
  | nil => rfl
  | cons c s ih =>
    by_cases hc : c = '\n'
    · rw [hc, List.cons_append, crlf_newline, crlf_newline, ih]
      rfl
    · rw [List.cons_append, crlf_cons hc, crlf_cons hc, ih]
      rfl

theorem crlf_flatten (parts : List (List Char)) :
    crlf parts.flatten = (parts.map crlf).flatten := by
  induction parts with
  | nil => rfl
  | cons part parts ih => rw [List.flatten_cons, crlf_append, ih, List.map_cons, List.flatten_cons]

/-- The lines of a text with other endings are its lines with other endings. -/
theorem lines_crlf (text : List Char) : lines (crlf text) = (lines text).map crlf := by
  induction text with
  | nil => rfl
  | cons c text ih =>
    by_cases hc : c = '\n'
    · -- the carriage return stands in front of the newline that ends its line
      subst hc
      have hEnding : lines ('\n' :: crlf text) = ['\n'] :: lines (crlf text) := by
        rw [lines, if_pos rfl]
      rw [crlf_newline, lines, if_neg (by decide), hEnding, ih, lines, if_pos rfl]
      rfl
    · rw [crlf_cons hc, lines, if_neg hc, lines, if_neg hc, ih]
      cases lines text with
      | nil => rw [List.map_nil, List.map_singleton, crlf_cons hc, crlf_nil]
      | cons line rest => rw [List.map_cons, List.map_cons, crlf_cons hc]

theorem crlf_of_not_mem {body : List Char} (h : '\n' ∉ body) : crlf body = body := by
  induction body with
  | nil => rfl
  | cons c body ih =>
    rw [List.mem_cons, not_or] at h
    obtain ⟨hHead, hTail⟩ := h
    rw [crlf_cons (Ne.symm hHead), ih hTail]

/-- A line without its ending does not depend on the kind of ending. -/
theorem lineBody_crlf {text line : List Char} (h : line ∈ lines text) (hReturn : '\r' ∉ line) :
    lineBody (crlf line) = lineBody line := by
  obtain ⟨body, hNewline, rfl | rfl⟩ := exists_body_of_mem_lines h
  · -- a last line without an ending gets none
    rw [crlf_of_not_mem hNewline]
  · have hBody : '\r' ∉ body := fun hMem => hReturn (List.mem_append_left _ hMem)
    have hEnding : crlf ['\n'] = ['\r', '\n'] := crlf_newline []
    rw [crlf_append, crlf_of_not_mem hNewline, hEnding, lineBody_of_return,
      lineBody_of_newline hBody]

end Text

/-! ## Scans -/

/-- A segment whose text has a carriage return in front of each newline. -/
def Segment.crlf : Segment → Segment
  | text t => text (String.ofList (Text.crlf t.toList))
  | block b => block b

/-- A place whose text so far has a carriage return in front of each newline. -/
def Place.crlf : Place → Place
  | outside text => outside (text.map Text.crlf)
  | inert closing text => inert closing (text.map Text.crlf)
  | inside start directives pending => inside start directives pending

section Scans

variable {m : Markers}

theorem textSegment_crlf (text : List (List Char)) :
    textSegment (text.map Text.crlf) = (textSegment text).map Segment.crlf := by
  by_cases hText : text = []
  · rw [hText]
    rfl
  · rw [textSegment_of_ne_nil hText, textSegment_of_ne_nil (by simpa using hText),
      ← List.map_reverse, ← Text.crlf_flatten, List.map_singleton, Segment.crlf,
      String.toList_ofList]

theorem crlf_scanDirective (n start : Nat) (directives : List DirectiveLine)
    (pending : Option Pending) (trimmed : List Char) :
    (scanDirective m n start directives pending trimmed).crlf =
      scanDirective m n start directives pending trimmed := by
  obtain ⟨directives', pending', hPlace⟩ :=
    scanDirective_inside (m := m) n start directives pending trimmed
  rw [hPlace]
  rfl

/-- **One line.** A line that is the same without its ending does the same. -/
theorem step_crlf {line : List Char} (hBody : Text.lineBody (Text.crlf line) = Text.lineBody line)
    (n : Nat) (p : Place) :
    p.crlf.step m n (Text.crlf line) =
      (p.step m n line).map fun (done, next) => (done.map Segment.crlf, next.crlf) := by
  cases p with
  | outside text =>
    simp only [Place.crlf, Place.step, hBody, textSegment_crlf]
    split
    · rfl
    split
    · rfl
    cases m.opensInert? (Text.lineBody line) <;> rfl
  | inert closing text =>
    simp only [Place.crlf, Place.step, hBody]
    split <;> rfl
  | inside start directives pending =>
    simp only [Place.crlf, Place.step, hBody]
    split
    · cases pending <;> rfl
    · exact congrArg (fun next => Except.ok ([], next)) (crlf_scanDirective n start directives
        pending (Text.trim (Text.lineBody line))).symm

theorem finish_crlf (p : Place) : p.crlf.finish = p.finish.map (List.map Segment.crlf) := by
  match p with
  | .outside text => exact congrArg Except.ok (textSegment_crlf text)
  | .inert closing text => exact congrArg Except.ok (textSegment_crlf text)
  | .inside start directives none => rfl
  | .inside start directives (some pending) => rfl

/-- **Line endings.** A template without carriage returns is scanned to the same outcome with one in
front of each newline: the same fault, or the same blocks with the same text around them, in which
the line endings are those of the template. -/
theorem scan_crlf (m : Markers) {source : String} (h : '\r' ∉ source.toList) :
    m.scan (String.ofList (Text.crlf source.toList)) =
      (m.scan source).map (List.map Segment.crlf) := by
  have hStep : ∀ n (p : Place), ∀ line ∈ Text.lines source.toList,
      p.crlf.step m (n + 0) (Text.crlf line) =
        ((p.step m n line).mapError id).map fun (done, next) =>
          (done.map Segment.crlf, next.crlf) := by
    intro n p line hLine
    have hReturn : '\r' ∉ line := by
      intro hMem
      apply h
      rw [← Text.flatten_lines source.toList]
      exact List.mem_flatten_of_mem hLine hMem
    rw [step_crlf (Text.lineBody_crlf hLine hReturn)]
    cases p.step m n line <;> rfl
  have hFinish (p : Place) :
      p.crlf.finish = (p.finish.mapError id).map (List.map Segment.crlf) := by
    rw [finish_crlf]
    cases p.finish <;> rfl
  rw [Markers.scan, Markers.scan, String.toList_ofList, Text.lines_crlf]
  have hAlike := scanFrom_alike hStep hFinish 1 (.outside [])
  rw [Place.crlf, List.map_nil, Nat.add_zero] at hAlike
  rw [hAlike]
  cases scanFrom m 1 (.outside []) (Text.lines source.toList) <;> rfl

/-- A comment around a marker, a directive on two lines and a last line without an ending. -/
theorem scan_crlf_unended :
    let m : Markers := {}
    let source := "/* a\n@@end\n*/\n@@extract\nsizeof \\\n h.h\n@@end\nb"
    '\r' ∉ source.toList ∧
      String.ofList (Text.crlf source.toList) =
        "/* a\r\n@@end\r\n*/\r\n@@extract\r\nsizeof \\\r\n h.h\r\n@@end\r\nb" ∧
      m.scan (String.ofList (Text.crlf source.toList)) =
        .ok [.text "/* a\r\n@@end\r\n*/\r\n", .block ⟨4, [⟨5, "sizeof h.h"⟩]⟩, .text "b"] := by
  intro m source
  have hReturn : '\r' ∉ source.toList := by decide +kernel
  have hScan : m.scan source =
      .ok [.text "/* a\n@@end\n*/\n", .block ⟨4, [⟨5, "sizeof h.h"⟩]⟩, .text "b"] := by
    decide +kernel
  refine ⟨hReturn, by decide +kernel, ?_⟩
  rw [scan_crlf m hReturn, hScan]
  decide +kernel

end Scans

end HeaderFacts

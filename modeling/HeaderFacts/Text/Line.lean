/-!
# Physical lines

A text is cut after each newline, and a line keeps its ending, so that the lines of a text put
together are the text again.

Main definitions:

* `Text.lines` — the physical lines of a text, endings kept.
* `Text.lineBody` — a line without its ending, `\n` or `\r\n`.

Main results:

* `flatten_lines` — the lines put together are the text.
* `lines_append` — a text after a newline begins with a line of its own.
* `lines_eq_append` — some of the lines of a text are the lines of a text of their own.
* `exists_body_of_mem_lines` — a line is something without newlines, and one behind it.
-/

namespace HeaderFacts.Text

/-- The physical lines of a text; a line keeps the newline that ends it. -/
def lines : List Char → List (List Char)
  | [] => []
  | c :: text =>
    if c = '\n' then [c] :: lines text
    else
      match lines text with
      | [] => [[c]]
      | line :: rest => (c :: line) :: rest

/-- A line without the newline that ends it, and without a carriage return before that place. -/
def lineBody (line : List Char) : List Char :=
  let body := if line.getLast? = some '\n' then line.dropLast else line
  if body.getLast? = some '\r' then body.dropLast else body

/-- The lines of a text put together are the text. -/
@[simp] theorem flatten_lines (text : List Char) : (lines text).flatten = text := by
  induction text with
  | nil => rfl
  | cons c text ih =>
    simp only [lines]
    split
    · simp [ih]
    · split
      · next h => simp_all
      · next h => simp_all

theorem ne_nil_of_mem_lines {text line : List Char} (h : line ∈ lines text) : line ≠ [] := by
  induction text generalizing line with
  | nil => cases h
  | cons c text ih =>
    rw [lines] at h
    split at h
    · rcases List.mem_cons.1 h with rfl | h
      · simp
      · exact ih h
    · split at h
      · simp_all
      · next first rest hLines =>
        rcases List.mem_cons.1 h with rfl | h
        · simp
        · exact ih (hLines ▸ List.mem_cons_of_mem _ h)

/-- After a newline, or at the start, a text begins with a line of its own. -/
theorem lines_append {s : List Char} (h : s = [] ∨ s.getLast? = some '\n') (t : List Char) :
    lines (s ++ t) = lines s ++ lines t := by
  induction s with
  | nil => rfl
  | cons c s ih =>
    cases s with
    | nil =>
      have hc : c = '\n' := by simpa using h
      simp [lines, hc]
    | cons d s =>
      have hTail : lines (d :: s ++ t) = lines (d :: s) ++ lines t := by
        apply ih
        right
        simpa using h
      rw [List.cons_append, lines, lines, hTail]
      split
      · rfl
      · cases hLines : lines (d :: s) with
        | nil =>
          have := flatten_lines (d :: s)
          rw [hLines] at this
          cases this
        | cons line rest => rfl

/-! ## The lines of parts of a text -/

/-- The first line of a text is a text of one line, which is whole if anything comes after it. -/
theorem lines_eq_cons {text line : List Char} {rest : List (List Char)}
    (h : lines text = line :: rest) :
    ∃ later, text = line ++ later ∧ lines line = [line] ∧ lines later = rest ∧
      (rest ≠ [] → line.getLast? = some '\n') := by
  induction text generalizing line with
  | nil => cases h
  | cons c text ih =>
    rw [lines] at h
    split at h
    · next hNewline =>
      cases h
      refine ⟨text, rfl, ?_, rfl, ?_⟩
      · simp [lines, hNewline]
      · simp [hNewline]
    · next hNewline =>
      cases hText : lines text with
      | nil =>
        rw [hText] at h
        cases h
        have hEmpty : text = [] := by rw [← flatten_lines text, hText]; rfl
        exact ⟨[], by rw [hEmpty]; rfl, by simp [lines, hNewline], rfl, by simp⟩
      | cons first others =>
        rw [hText] at h
        cases h
        obtain ⟨later, hSplit, hFirst, hLater, hWhole⟩ := ih hText
        refine ⟨later, by rw [hSplit]; rfl, ?_, hLater, ?_⟩
        · rw [lines, if_neg hNewline, hFirst]
        · intro hRest
          have := hWhole hRest
          cases first with
          | nil => cases this
          | cons d first => rw [List.getLast?_cons_cons]; exact this

/-- Some first lines of a text are the lines of a text of their own, which ends with a whole line
if anything comes after it. -/
theorem lines_eq_append {text : List Char} {front back : List (List Char)}
    (h : lines text = front ++ back) :
    lines front.flatten = front ∧ lines back.flatten = back ∧
      (back ≠ [] → front.flatten = [] ∨ front.flatten.getLast? = some '\n') := by
  induction front generalizing text with
  | nil =>
    have hBack : text = back.flatten := by rw [← flatten_lines text, h]; rfl
    exact ⟨rfl, hBack ▸ h, fun _ => Or.inl rfl⟩
  | cons line front ih =>
    obtain ⟨later, -, hLine, hLater, hWhole⟩ := lines_eq_cons h
    obtain ⟨hFront, hBack, hEnd⟩ := ih hLater
    rw [List.flatten_cons]
    by_cases hNone : front = []
    · rw [hNone, List.flatten_nil, List.append_nil]
      exact ⟨hLine, hBack, fun hMore => Or.inr (hWhole (by simp [hMore]))⟩
    · have hNewline : line.getLast? = some '\n' := hWhole (by simp [hNone])
      refine ⟨?_, hBack, fun hMore => Or.inr ?_⟩
      · rw [lines_append (Or.inr hNewline), hLine, hFront]
        rfl
      · have hNonempty : front.flatten ≠ [] := by
          intro hEmpty
          rw [hEmpty] at hFront
          exact hNone hFront.symm
        rw [List.getLast?_append, (hEnd hMore).resolve_left hNonempty]
        rfl

/-! ## Lines and their endings -/

/-- A line is something without newlines, with or without one behind it. -/
theorem exists_body_of_mem_lines {text line : List Char} (h : line ∈ lines text) :
    ∃ body, '\n' ∉ body ∧ (line = body ∨ line = body ++ ['\n']) := by
  induction text generalizing line with
  | nil => cases h
  | cons c text ih =>
    rw [lines] at h
    by_cases hc : c = '\n'
    · rw [if_pos hc] at h
      rcases List.mem_cons.1 h with rfl | hRest
      · exact ⟨[], List.not_mem_nil, Or.inr (by rw [hc]; rfl)⟩
      · exact ih hRest
    · rw [if_neg hc] at h
      cases hLines : lines text with
      | nil =>
        rw [hLines, List.mem_singleton] at h
        exact ⟨[c], by simpa using Ne.symm hc, Or.inl h⟩
      | cons first rest =>
        rw [hLines] at h ih
        rcases List.mem_cons.1 h with rfl | hRest
        · obtain ⟨body, hBody, hFirst⟩ := ih (List.mem_cons_self ..)
          refine ⟨c :: body, by simp [hBody, Ne.symm hc], ?_⟩
          exact hFirst.imp (congrArg (c :: ·)) (congrArg (c :: ·))
        · exact ih (List.mem_cons_of_mem _ hRest)

theorem lineBody_of_newline {body : List Char} (hReturn : '\r' ∉ body) :
    lineBody (body ++ ['\n']) = body := by
  have hNoReturn : body.getLast? ≠ some '\r' := mt List.mem_of_getLast? hReturn
  simp only [lineBody]
  rw [if_pos List.getLast?_concat, List.dropLast_concat, if_neg hNoReturn]

theorem lineBody_of_return (body : List Char) : lineBody (body ++ ['\r', '\n']) = body := by
  have hEnding : body ++ ['\r', '\n'] = (body ++ ['\r']) ++ ['\n'] := by simp
  simp only [lineBody]
  rw [hEnding, if_pos List.getLast?_concat, List.dropLast_concat, if_pos List.getLast?_concat,
    List.dropLast_concat]

end HeaderFacts.Text

/-!
# Searching and cutting text

Substring operations on lists of characters. Everything here is a structural recursion over the
text, so that its laws follow by induction on the text.

Main definitions:

* `Text.stripStart?`, `Text.stripEnd?` — what is left of a text that begins (ends) with another.
* `Text.occursIn` — whether a text occurs in another.
* `Text.cut?` — the two sides of the first occurrence of a character.
* `Text.splitAt` — the parts between all occurrences of a character.
* `Text.replaceAll` — substitution for every occurrence, left to right, none overlapping.

Main results:

* `stripStart?_eq_some`, `stripEnd?_eq_some` — what is stripped stands at the start (the end).
* `startsWith_iff`, `occursIn_iff` — the searches decide the relations of lists.
* `cut?_append`, `cut?_eq_some_iff` — a text is cut at a character that does not occur before it.
* `splitAt_append`, `splitAt_of_not_mem` — the parts of a text, one after the other.
* `splitAt_eq_splitOn` — the parts of a text are those of the list it is.
* `replaceAll_append`, `replaceAll_cons` — a substitution, one occurrence or character at a time.
-/

namespace HeaderFacts.Text

/-- What follows `start` in a text that begins with it. -/
def stripStart? : (start text : List Char) → Option (List Char)
  | [], text => some text
  | _ :: _, [] => none
  | a :: start, b :: text => if a = b then stripStart? start text else none

/-- What precedes `final` in a text that ends with it. -/
def stripEnd? (final text : List Char) : Option (List Char) :=
  (stripStart? final.reverse text.reverse).map List.reverse

/-- Whether a text begins with `start`. -/
def startsWith (start text : List Char) : Bool :=
  (stripStart? start text).isSome

/-- Whether `part` occurs somewhere in a text. -/
def occursIn (part : List Char) : List Char → Bool
  | [] => startsWith part []
  | c :: text => startsWith part (c :: text) || occursIn part text

/-- The text before and after the first occurrence of `sep`. -/
def cut? (sep : Char) : List Char → Option (List Char × List Char)
  | [] => none
  | c :: text =>
    if c = sep then some ([], text)
    else (cut? sep text).map fun (before, after) => (c :: before, after)

/-- The parts of a text between the occurrences of `sep`; always at least one. -/
def splitAt (sep : Char) : List Char → List (List Char)
  | [] => [[]]
  | c :: text =>
    if c = sep then [] :: splitAt sep text
    else
      match splitAt sep text with
      | [] => [[c]]
      | part :: parts => (c :: part) :: parts

/-- Replaces each occurrence of `part`, found from the left, by `new`. The counter holds how many
characters still belong to the occurrence found last. -/
def replaceFrom (part new : List Char) : Nat → List Char → List Char
  | _, [] => []
  | skip + 1, _ :: text => replaceFrom part new skip text
  | 0, c :: text =>
    if startsWith part (c :: text) then new ++ replaceFrom part new (part.length - 1) text
    else c :: replaceFrom part new 0 text

/-- Replaces each occurrence of the non-empty text `part`, found from the left, by `new`. -/
def replaceAll (part new text : List Char) : List Char :=
  replaceFrom part new 0 text

@[simp] theorem stripStart?_nil (text : List Char) : stripStart? [] text = some text := by
  cases text <;> rfl

theorem stripStart?_eq_some {start text rest : List Char} :
    stripStart? start text = some rest ↔ text = start ++ rest := by
  induction start generalizing text with
  | nil => simp [eq_comm]
  | cons a start ih =>
    cases text with
    | nil => simp [stripStart?]
    | cons b text =>
      simp only [stripStart?, List.cons_append, List.cons.injEq]
      split
      · next h => simp [h, ih]
      · next h => simp [Ne.symm h]

theorem stripEnd?_eq_some {final text rest : List Char} :
    stripEnd? final text = some rest ↔ text = rest ++ final := by
  simp only [stripEnd?, Option.map_eq_some_iff, stripStart?_eq_some]
  constructor
  · rintro ⟨r, h, rfl⟩
    have := congrArg List.reverse h
    simpa using this
  · rintro rfl
    exact ⟨rest.reverse, by simp, by simp⟩

theorem startsWith_iff {start text : List Char} : startsWith start text = true ↔ start <+: text := by
  rw [startsWith, Option.isSome_iff_exists]
  constructor
  · rintro ⟨rest, h⟩
    exact ⟨rest, (stripStart?_eq_some.1 h).symm⟩
  · rintro ⟨rest, h⟩
    exact ⟨rest, stripStart?_eq_some.2 h.symm⟩

theorem occursIn_iff {part text : List Char} : occursIn part text = true ↔ part <:+: text := by
  induction text with
  | nil => rw [occursIn, startsWith_iff, List.prefix_nil, List.infix_nil]
  | cons c text ih => rw [occursIn, Bool.or_eq_true, startsWith_iff, ih, List.infix_cons_iff]

/-- A text is cut at a character that does not occur before it. -/
theorem cut?_append {sep : Char} {before after : List Char} (h : sep ∉ before) :
    cut? sep (before ++ sep :: after) = some (before, after) := by
  induction before with
  | nil => exact if_pos rfl
  | cons c before ih =>
    rw [List.mem_cons, not_or] at h
    obtain ⟨hHead, hTail⟩ := h
    rw [List.cons_append, cut?, if_neg (Ne.symm hHead), ih hTail]
    rfl

/-- The two sides of a cut, and no earlier place to cut. -/
theorem cut?_eq_some_iff {sep : Char} {text before after : List Char} :
    cut? sep text = some (before, after) ↔ text = before ++ sep :: after ∧ sep ∉ before := by
  constructor
  · intro h
    induction text generalizing before with
    | nil => cases h
    | cons c text ih =>
      rw [cut?] at h
      split at h
      · next hSep =>
        cases h
        exact ⟨by rw [hSep, List.nil_append], List.not_mem_nil⟩
      · next hSep =>
        obtain ⟨⟨start, rest⟩, hCut, hParts⟩ := Option.map_eq_some_iff.1 h
        cases hParts
        obtain ⟨rfl, hStart⟩ := ih hCut
        exact ⟨rfl, List.not_mem_cons_of_ne_of_not_mem (Ne.symm hSep) hStart⟩
  · rintro ⟨rfl, h⟩
    exact cut?_append h

theorem splitAt_of_not_mem {sep : Char} {text : List Char} (h : sep ∉ text) :
    splitAt sep text = [text] := by
  induction text with
  | nil => rfl
  | cons c text ih =>
    rw [List.mem_cons, not_or] at h
    obtain ⟨hHead, hTail⟩ := h
    rw [splitAt, if_neg (Ne.symm hHead), ih hTail]

/-- The first part of a text ends at the first occurrence of the character. -/
theorem splitAt_append {sep : Char} {part : List Char} (rest : List Char) (h : sep ∉ part) :
    splitAt sep (part ++ sep :: rest) = part :: splitAt sep rest := by
  induction part with
  | nil => rw [List.nil_append, splitAt, if_pos rfl]
  | cons c part ih =>
    rw [List.mem_cons, not_or] at h
    obtain ⟨hHead, hTail⟩ := h
    rw [List.cons_append, splitAt, if_neg (Ne.symm hHead), ih hTail]

/-- The parts of a text are those of the list it is. -/
theorem splitAt_eq_splitOn (sep : Char) (text : List Char) :
    splitAt sep text = text.splitOn sep := by
  induction text with
  | nil => rfl
  | cons c text ih =>
    rw [splitAt, ih, List.splitOn_cons_eq_if_modifyHead]
    by_cases hSep : c = sep
    · rw [if_pos hSep, if_pos (beq_iff_eq.2 hSep)]
    · rw [if_neg hSep, if_neg (mt beq_iff_eq.1 hSep)]
      -- a list has one part at least, so the character belongs to the first of them
      obtain ⟨part, parts, hParts⟩ := List.exists_cons_of_ne_nil (List.splitOn_ne_nil sep text)
      rw [hParts]
      rfl

@[simp] theorem replaceAll_nil (part new : List Char) : replaceAll part new [] = [] := rfl

/-- The characters that belong to an occurrence are passed over. -/
theorem replaceFrom_append (part new passed rest : List Char) :
    replaceFrom part new passed.length (passed ++ rest) = replaceFrom part new 0 rest := by
  induction passed with
  | nil => rfl
  | cons c passed ih => exact ih

/-- An occurrence at the start is replaced. -/
theorem replaceAll_append {part : List Char} (new rest : List Char) (h : part ≠ []) :
    replaceAll part new (part ++ rest) = new ++ replaceAll part new rest := by
  obtain ⟨c, inner, rfl⟩ := List.exists_cons_of_ne_nil h
  have hStart : startsWith (c :: inner) (c :: (inner ++ rest)) = true :=
    startsWith_iff.2 (List.prefix_append (c :: inner) rest)
  rw [replaceAll, List.cons_append, replaceFrom, if_pos hStart]
  exact congrArg (new ++ ·) (replaceFrom_append (c :: inner) new inner rest)

/-- A character with which no occurrence starts is kept. -/
theorem replaceAll_cons {part new text : List Char} {c : Char} (h : ¬ part <+: c :: text) :
    replaceAll part new (c :: text) = c :: replaceAll part new text := by
  rw [replaceAll, replaceFrom, if_neg (mt startsWith_iff.1 h)]
  rfl

end HeaderFacts.Text

import HeaderFacts.Directive.Canonical
import Mathlib.Data.String.Basic

/-!
# Splitting a line into words

A line of words has a grammar: gaps and words in turn, where a gap may be empty unless it keeps two
unquoted words apart. Splitting finds the words of a line in this grammar, and fails on every other
line, at the first quote behind which no quoted word can be read.

Splitting so undoes writing. Quoted words may hold anything, for what would end them is escaped. A
bare word is written as it is, so it must not be empty, hold a gap or a quote, or look like the
separator; the bare words that splitting finds are of this kind.

Main definitions:

* `Arg.Plain` — a word that is written as it is split.
* `Arg.Token` — a word as it may stand in a line.
* `Arg.Sentence` — the grammar of a line.
* `Arg.Unclosed` — what stands behind a quote that opens no word.
* `Arg.Spaced` — words in a line as they are written, with gaps between them.

Main results:

* `split_follows_grammar` — splitting accepts its grammar, and names the quote where it does not.
* `plain_of_split` — the words of a line are plain.
* `split_spaced` — plain words are split as they stand, however wide the gaps are.
* `split_line` — plain words are split as they were written.
-/

namespace HeaderFacts

namespace Arg

open String (utf8Len)

/-! ## Plain words -/

/-- A character that can stand in a bare word. -/
def IsWordChar (c : Char) : Prop :=
  isGap c = false ∧ c ≠ '\x22'

/-- A word that is written as it is split. -/
def Plain : Arg → Prop
  | bare t => t.toList ≠ [] ∧ (∀ c ∈ t.toList, IsWordChar c) ∧ t.toList ≠ ['-', '-']
  | quoted _ => True
  | separator => True

/-- A word without quotes around it. -/
def Unquoted : Arg → Prop
  | bare _ => True
  | quoted _ => False
  | separator => True

/-- Characters before which an unquoted word ends. -/
def EndsWord (cs : List Char) : Prop :=
  ∀ c, cs.head? = some c → ¬ IsWordChar c

theorem gap_or_quote {c : Char} (h : ¬ IsWordChar c) : isGap c = true ∨ c = '\x22' := by
  rw [IsWordChar, not_and_or, Bool.not_eq_false, not_not] at h
  exact h

theorem not_isWordChar_of_isGap {c : Char} (h : isGap c = true) : ¬ IsWordChar c :=
  fun hc => Bool.false_ne_true (hc.1.symm.trans h)

theorem endsWord_nil : EndsWord [] :=
  fun _ h => nomatch h

theorem endsWord_cons {c : Char} {cs : List Char} (h : ¬ IsWordChar c) : EndsWord (c :: cs) := by
  rintro d ⟨⟩
  exact h

theorem endsWord_of_append {cs rest : List Char} (h : EndsWord (cs ++ rest)) : EndsWord cs := by
  cases cs with
  | nil => exact endsWord_nil
  | cons c cs => exact endsWord_cons (h c rfl)

/-- A gap that is not empty ends an unquoted word. -/
theorem endsWord_gap {gap rest : List Char} (hNonempty : gap ≠ [])
    (hGap : ∀ c ∈ gap, isGap c = true) : EndsWord (gap ++ rest) := by
  obtain ⟨c, gap, rfl⟩ := List.exists_cons_of_ne_nil hNonempty
  exact endsWord_cons (not_isWordChar_of_isGap (hGap c List.mem_cons_self))

/-! ## The grammar of a line -/

/-- What may stand between two quotes, and the text it says: a character says itself, and a
backslash with a character behind it says that character. -/
inductive Body : List Char → List Char → Prop
  | nil : Body [] []
  | char {c body text} (hQuote : c ≠ '\x22') (hEscape : c ≠ '\\') (hRest : Body body text) :
      Body (c :: body) (c :: text)
  | pair {c body text} (hNewline : c ≠ '\n') (hRest : Body body text) :
      Body ('\\' :: c :: body) (c :: text)

/-- A word as it may stand in a line. -/
inductive Token : List Char → Arg → Prop
  | bare {t : String} (hPlain : (bare t).Plain) : Token t.toList (bare t)
  | separator : Token ['-', '-'] separator
  | quoted {body text : List Char} (hBody : Body body text) :
      Token ('\x22' :: (body ++ ['\x22'])) (quoted (String.ofList text))

/-- Words with a gap behind each. The gap may be empty, unless it stands between unquoted words. -/
inductive Tokens : List Char → List Arg → Prop
  | nil : Tokens [] []
  | token {w a gap cs args} (hToken : Token w a) (hGap : ∀ c ∈ gap, isGap c = true)
      (hApart : ∀ b, args.head? = some b → a.Unquoted → b.Unquoted → gap ≠ [])
      (hRest : Tokens cs args) : Tokens (w ++ (gap ++ cs)) (a :: args)

/-- A line of words: a gap, which may be empty, and words with a gap behind each. -/
def Sentence (cs : List Char) (args : List Arg) : Prop :=
  ∃ gap tokens, cs = gap ++ tokens ∧ (∀ c ∈ gap, isGap c = true) ∧ Tokens tokens args

/-- What stands behind a quote that opens no word: no quote in it can close one. -/
def Unclosed (cs : List Char) : Prop :=
  ∀ body text rest, Body body text → cs ≠ body ++ '\x22' :: rest

/-! ### Words -/

theorem token_ofWord {w : List Char} (hNonempty : w ≠ []) (hw : ∀ c ∈ w, IsWordChar c) :
    Token w (ofWord w) := by
  rw [ofWord]
  split
  · next hSeparator =>
    rw [hSeparator]
    exact .separator
  · next hSeparator =>
    have hPlain : (Arg.bare (String.ofList w)).Plain := by
      rw [Plain, String.toList_ofList]
      exact ⟨hNonempty, hw, hSeparator⟩
    have hToken := Token.bare hPlain
    rwa [String.toList_ofList] at hToken

theorem Token.plain {w : List Char} {a : Arg} (h : Token w a) : a.Plain := by
  cases h with
  | bare hPlain => exact hPlain
  | separator => trivial
  | quoted hBody => trivial

/-- A word begins with no gap, and with a quote if it is quoted. -/
theorem Token.exists_cons {w : List Char} {a : Arg} (h : Token w a) :
    ∃ c v, w = c :: v ∧ (IsWordChar c ↔ a.Unquoted) := by
  cases h with
  | @bare t hPlain =>
    obtain ⟨hNonempty, hChars, -⟩ := hPlain
    obtain ⟨c, v, hCons⟩ := List.exists_cons_of_ne_nil hNonempty
    have hc : IsWordChar c := hChars c (by rw [hCons]; exact List.mem_cons_self)
    exact ⟨c, v, hCons, iff_of_true hc trivial⟩
  | separator => exact ⟨'-', ['-'], rfl, by simp [IsWordChar, isGap, Unquoted]⟩
  | quoted hBody => exact ⟨_, _, rfl, by simp [IsWordChar, Unquoted]⟩

/-- A character is written as itself, or with a backslash before it. -/
theorem body_escape (t : List Char) : Body (t.flatMap escapeChar) t := by
  induction t with
  | nil => exact .nil
  | cons c t ih =>
    rw [List.flatMap_cons]
    by_cases hSpecial : c = '\x22' ∨ c = '\\'
    · -- what is escaped is no newline
      have hNewline : c ≠ '\n' := by
        rcases hSpecial with rfl | rfl <;> decide
      rw [escapeChar, if_pos hSpecial]
      exact .pair hNewline ih
    · rw [escapeChar, if_neg hSpecial]
      rw [not_or] at hSpecial
      exact .char hSpecial.1 hSpecial.2 ih

/-- A plain word may stand in a line as it is written. -/
theorem token_written {a : Arg} (h : a.Plain) : Token a.written a := by
  cases a with
  | bare t => exact .bare h
  | quoted t =>
    have hToken := Token.quoted (body_escape t.toList)
    rwa [String.ofList_toList] at hToken
  | separator => exact .separator

/-! ### Lines -/

theorem sentence_nil : Sentence [] [] :=
  ⟨[], [], rfl, by simp, .nil⟩

theorem sentence_gap {gap cs : List Char} {args : List Arg} (hGap : ∀ c ∈ gap, isGap c = true)
    (h : Sentence cs args) : Sentence (gap ++ cs) args := by
  obtain ⟨gap', tokens, rfl, hGap', hTokens⟩ := h
  have hGaps : ∀ c ∈ gap ++ gap', isGap c = true := by
    rw [List.forall_mem_append]
    exact ⟨hGap, hGap'⟩
  exact ⟨gap ++ gap', tokens, (List.append_assoc ..).symm, hGaps, hTokens⟩

/-- Where the words that follow begin with an unquoted one, a bare word does not end. -/
theorem Tokens.not_endsWord {tokens : List Char} {args : List Arg} {b : Arg}
    (h : Tokens tokens args) (hHead : args.head? = some b) (hb : b.Unquoted) :
    ¬ EndsWord tokens := by
  intro hEnd
  cases h with
  | nil => cases hHead
  | token hToken hGap hApart hRest =>
    cases hHead
    obtain ⟨c, v, rfl, hc⟩ := hToken.exists_cons
    exact hEnd c rfl (hc.2 hb)

/-- A word may stand before a line, if it ends there. -/
theorem sentence_token {w cs : List Char} {a : Arg} {args : List Arg} (hToken : Token w a)
    (hEnd : a.Unquoted → EndsWord cs) (h : Sentence cs args) :
    Sentence (w ++ cs) (a :: args) := by
  obtain ⟨gap, tokens, rfl, hGap, hTokens⟩ := h
  have hApart : ∀ b, args.head? = some b → a.Unquoted → b.Unquoted → gap ≠ [] := by
    rintro b hHead ha hb rfl
    exact hTokens.not_endsWord hHead hb (hEnd ha)
  exact ⟨[], w ++ (gap ++ tokens), rfl, by simp, .token hToken hGap hApart hTokens⟩

/-- What follows a word in a line ends it, if it is unquoted. -/
theorem endsWord_tokens {a : Arg} {gap tokens rest : List Char} {args : List Arg}
    (hGap : ∀ c ∈ gap, isGap c = true)
    (hApart : ∀ b, args.head? = some b → a.Unquoted → b.Unquoted → gap ≠ [])
    (hTokens : Tokens tokens args) (hRest : EndsWord rest) (ha : a.Unquoted) :
    EndsWord (gap ++ (tokens ++ rest)) := by
  by_cases hNone : gap = []
  · subst hNone
    cases hTokens with
    | nil => exact hRest
    | @token w b gap' cs args hToken hGap' hApart' hRest' =>
      -- without a gap between them, the word that follows is quoted
      obtain ⟨c, v, rfl, hc⟩ := hToken.exists_cons
      have hQuoted : ¬ b.Unquoted := fun hb => hApart b rfl ha hb rfl
      exact endsWord_cons (mt hc.1 hQuoted)
  · exact endsWord_gap hNone hGap

/-! ## Splitting follows the grammar -/

/-- Where a line goes on behind some characters, the first of which has been read. -/
theorem offset_cons (offset : Nat) (c : Char) (cs : List Char) :
    offset + c.utf8Size + utf8Len cs = offset + utf8Len (c :: cs) := by
  rw [String.utf8Len_cons]
  omega

theorem splitFrom_gap {gap : List Char} (hGap : ∀ c ∈ gap, isGap c = true) (offset : Nat)
    (rest : List Char) :
    splitFrom offset .gap (gap ++ rest) = splitFrom (offset + utf8Len gap) .gap rest := by
  induction gap generalizing offset with
  | nil => rfl
  | cons c gap ih =>
    obtain ⟨hc, hGap⟩ := List.forall_mem_cons.1 hGap
    rw [List.cons_append, splitFrom, if_pos hc, ih hGap, offset_cons]

/-- The rest of an unquoted word is added to what has been read of it. -/
theorem splitFrom_wordChars {w : List Char} (hw : ∀ c ∈ w, IsWordChar c) (offset : Nat)
    (read rest : List Char) :
    splitFrom offset (.word read) (w ++ rest) =
      splitFrom (offset + utf8Len w) (.word (w.reverse ++ read)) rest := by
  induction w generalizing offset read with
  | nil => rfl
  | cons c w ih =>
    obtain ⟨⟨hGap, hQuote⟩, hw⟩ := List.forall_mem_cons.1 hw
    rw [List.cons_append, splitFrom, hGap, if_neg Bool.false_ne_true, if_neg hQuote, ih hw,
      offset_cons, List.reverse_cons, List.append_assoc, List.singleton_append]

/-- An unquoted word that ends is found, and splitting goes on as if a gap had been read. -/
theorem splitFrom_word {cs : List Char} (hEnd : EndsWord cs) (offset : Nat) (read : List Char) :
    splitFrom offset (.word read) cs =
      (splitFrom offset .gap cs).map (ofWord read.reverse :: ·) := by
  cases cs with
  | nil => rfl
  | cons c cs =>
    rcases gap_or_quote (hEnd c rfl) with hGap | rfl
    · rw [splitFrom, if_pos hGap, splitFrom, if_pos hGap]
    · rw [splitFrom, if_neg (by decide), if_pos rfl, splitFrom, if_neg (by decide), if_pos rfl]

theorem splitFrom_ofWord {w cs : List Char} (hNonempty : w ≠ []) (hw : ∀ c ∈ w, IsWordChar c)
    (hEnd : EndsWord cs) (offset : Nat) :
    splitFrom offset .gap (w ++ cs) =
      (splitFrom (offset + utf8Len w) .gap cs).map (ofWord w :: ·) := by
  obtain ⟨c, w, rfl⟩ := List.exists_cons_of_ne_nil hNonempty
  obtain ⟨⟨hGap, hQuote⟩, hw⟩ := List.forall_mem_cons.1 hw
  rw [List.cons_append, splitFrom, hGap, if_neg Bool.false_ne_true, if_neg hQuote,
    splitFrom_wordChars hw, splitFrom_word hEnd, offset_cons, List.reverse_append,
    List.reverse_reverse]
  rfl

/-- What stands between quotes is added to what has been read as the text it says. -/
theorem splitFrom_body {body text : List Char} (h : Body body text) (offset start : Nat)
    (read rest : List Char) :
    splitFrom offset (.quote start read) (body ++ rest) =
      splitFrom (offset + utf8Len body) (.quote start (text.reverse ++ read)) rest := by
  induction h generalizing offset read with
  | nil => rfl
  | @char c body text hQuote hEscape hRest ih =>
    rw [List.cons_append, splitFrom, if_neg hQuote, if_neg hEscape, ih, offset_cons,
      List.reverse_cons, List.append_assoc, List.singleton_append]
  | @pair c body text hNewline hRest ih =>
    -- the backslash is read on its own, then the character that it stands before
    rw [List.cons_append, splitFrom, if_neg (by decide), if_pos rfl, List.cons_append, splitFrom,
      if_neg hNewline, ih, offset_cons, offset_cons, List.reverse_cons, List.append_assoc,
      List.singleton_append]

/-- A word is found where it stands. -/
theorem splitFrom_token {w cs : List Char} {a : Arg} (h : Token w a)
    (hEnd : a.Unquoted → EndsWord cs) (offset : Nat) :
    splitFrom offset .gap (w ++ cs) =
      (splitFrom (offset + utf8Len w) .gap cs).map (a :: ·) := by
  cases h with
  | @bare t hPlain =>
    obtain ⟨hNonempty, hChars, hSeparator⟩ := hPlain
    have hWord : ofWord t.toList = .bare t := by
      rw [ofWord, if_neg hSeparator, String.ofList_toList]
    rw [splitFrom_ofWord hNonempty hChars (hEnd trivial), hWord]
  | separator =>
    have hChars : ∀ c ∈ ['-', '-'], IsWordChar c := by simp [IsWordChar, isGap]
    exact splitFrom_ofWord (List.cons_ne_nil _ _) hChars (hEnd trivial) offset
  | @quoted body text hBody =>
    have hOffset : offset + '\x22'.utf8Size + utf8Len body + '\x22'.utf8Size =
        offset + utf8Len ('\x22' :: (body ++ ['\x22'])) := by
      simp only [String.utf8Len_cons, String.utf8Len_append, String.utf8Len_nil]
      omega
    rw [List.cons_append, splitFrom, if_neg (by decide), if_pos rfl, List.append_assoc,
      splitFrom_body hBody, List.singleton_append, splitFrom, if_pos rfl, hOffset, List.append_nil,
      List.reverse_reverse]

/-- The words of a line are found, and splitting goes on behind the line. -/
theorem splitFrom_tokens {tokens rest : List Char} {args : List Arg} (h : Tokens tokens args)
    (hRest : EndsWord rest) (offset : Nat) :
    splitFrom offset .gap (tokens ++ rest) =
      (splitFrom (offset + utf8Len tokens) .gap rest).map (args ++ ·) := by
  -- along the words; what follows the line ends the last of them
  induction h generalizing offset with
  | nil =>
    show splitFrom offset .gap rest = (splitFrom offset .gap rest).map id
    rw [Except.map_id, id]
  | @token w a gap tokens args hToken hGap hApart hTokens ih =>
    have hEnd : a.Unquoted → EndsWord (gap ++ (tokens ++ rest)) :=
      endsWord_tokens hGap hApart hTokens hRest
    have hOffset : offset + utf8Len w + utf8Len gap + utf8Len tokens =
        offset + utf8Len (w ++ (gap ++ tokens)) := by
      rw [String.utf8Len_append, String.utf8Len_append]
      omega
    rw [List.append_assoc, List.append_assoc, splitFrom_token hToken hEnd, splitFrom_gap hGap, ih,
      hOffset]
    cases splitFrom (offset + utf8Len (w ++ (gap ++ tokens))) .gap rest <;> rfl

theorem splitFrom_sentence {cs rest : List Char} {args : List Arg} (h : Sentence cs args)
    (hRest : EndsWord rest) :
    splitFrom 0 .gap (cs ++ rest) = (splitFrom (utf8Len cs) .gap rest).map (args ++ ·) := by
  obtain ⟨gap, tokens, rfl, hGap, hTokens⟩ := h
  rw [List.append_assoc, splitFrom_gap hGap, splitFrom_tokens hTokens hRest, String.utf8Len_append,
    Nat.zero_add]

/-- Where no quote closes a word, splitting fails with the place of the quote that opened it. -/
theorem splitFrom_unclosed {cs : List Char} (start : Nat) :
    (Unclosed cs → ∀ offset read,
      splitFrom offset (.quote start read) cs = .error (.unterminatedQuote (start + 1))) ∧
    (Unclosed ('\\' :: cs) → ∀ offset read,
      splitFrom offset (.escape start read) cs = .error (.unterminatedQuote (start + 1))) := by
  -- along the line, for both readings that stand within quotes
  induction cs with
  | nil => exact ⟨fun _ _ _ => rfl, fun _ _ _ => rfl⟩
  | cons c cs ih =>
    constructor
    · intro hOpen offset read
      have hQuote : c ≠ '\x22' := by
        rintro rfl
        exact hOpen [] [] cs .nil rfl
      rw [splitFrom, if_neg hQuote]
      split
      · next hEscape =>
        rw [hEscape] at hOpen
        exact ih.2 hOpen _ _
      · next hEscape =>
        refine ih.1 (fun body text rest hBody hEq => ?_) _ _
        exact hOpen (c :: body) (c :: text) rest (.char hQuote hEscape hBody) (by rw [hEq]; rfl)
    · intro hOpen offset read
      rw [splitFrom]
      split
      · rfl
      · next hNewline =>
        refine ih.1 (fun body text rest hBody hEq => ?_) _ _
        exact hOpen ('\\' :: c :: body) (c :: text) rest (.pair hNewline hBody) (by rw [hEq]; rfl)

/-! ## Every line -/

/-- What is left of a line behind its words: nothing, or a quote that opens no word. -/
inductive Remains : List Char → Prop
  | nothing : Remains []
  | opened {cs} (hOpen : Unclosed cs) : Remains ('\x22' :: cs)

/-- Every line begins with the longest unquoted word that can stand there. -/
theorem exists_wordChars (cs : List Char) :
    ∃ w rest, cs = w ++ rest ∧ (∀ c ∈ w, IsWordChar c) ∧ EndsWord rest := by
  induction cs with
  | nil => exact ⟨[], [], rfl, by simp, endsWord_nil⟩
  | cons c cs ih =>
    by_cases hc : IsWordChar c
    · obtain ⟨w, rest, rfl, hw, hEnd⟩ := ih
      exact ⟨c :: w, rest, rfl, List.forall_mem_cons.2 ⟨hc, hw⟩, hEnd⟩
    · exact ⟨[], c :: cs, rfl, by simp, endsWord_cons hc⟩

/-- Every line has words, behind which a quote may be left that opens no word. -/
theorem exists_sentence (cs : List Char) :
    ∃ front rest args, cs = front ++ rest ∧ Sentence front args ∧ Remains rest := by
  -- a gap, a quoted word or an unquoted word is taken off the front
  induction hLength : cs.length using Nat.strong_induction_on generalizing cs with
  | _ n ih =>
    have hShorter : ∀ tail : List Char, tail.length < cs.length →
        ∃ front rest args, tail = front ++ rest ∧ Sentence front args ∧ Remains rest :=
      fun tail hLess => ih tail.length (hLength ▸ hLess) tail rfl
    cases cs with
    | nil => exact ⟨[], [], [], rfl, sentence_nil, .nothing⟩
    | cons c cs =>
      by_cases hChar : IsWordChar c
      · obtain ⟨w, tail, rfl, hw, hEnd⟩ := exists_wordChars cs
        have hLess : tail.length < (c :: (w ++ tail)).length := by
          rw [List.length_cons, List.length_append]
          omega
        obtain ⟨front, rest, args, rfl, hFront, hRest⟩ := hShorter tail hLess
        have hToken : Token (c :: w) (ofWord (c :: w)) :=
          token_ofWord (List.cons_ne_nil _ _) (List.forall_mem_cons.2 ⟨hChar, hw⟩)
        have hSentence := sentence_token hToken (fun _ => endsWord_of_append hEnd) hFront
        exact ⟨_, rest, _, by simp, hSentence, hRest⟩
      · rcases gap_or_quote hChar with hGap | rfl
        · obtain ⟨front, rest, args, rfl, hFront, hRest⟩ := hShorter cs (by simp)
          have hSentence := sentence_gap (List.forall_mem_singleton.2 hGap) hFront
          exact ⟨_, rest, _, by simp, hSentence, hRest⟩
        · by_cases hOpen : Unclosed cs
          · exact ⟨[], _, [], rfl, sentence_nil, .opened hOpen⟩
          · simp only [Unclosed, not_forall, not_not] at hOpen
            obtain ⟨body, text, tail, hBody, rfl⟩ := hOpen
            have hLess : tail.length < ('\x22' :: (body ++ '\x22' :: tail)).length := by
              rw [List.length_cons, List.length_append, List.length_cons]
              omega
            obtain ⟨front, rest, args, rfl, hFront, hRest⟩ := hShorter tail hLess
            have hSentence := sentence_token (.quoted hBody) (fun h => h.elim) hFront
            exact ⟨_, rest, _, by simp, hSentence, hRest⟩

theorem split_sentence {line : String} {args : List Arg} (h : Sentence line.toList args) :
    split line = .ok args := by
  have hSplit := splitFrom_sentence h endsWord_nil
  rw [List.append_nil] at hSplit
  rw [split, hSplit, splitFrom]
  simp [Except.map, Except.mapError]

theorem split_unclosed {line : String} {front rest : List Char} {args : List Arg}
    (hLine : line.toList = front ++ '\x22' :: rest) (hFront : Sentence front args)
    (hOpen : Unclosed rest) :
    split line = .error (.malformed (.unterminatedQuote (utf8Len front + 1))) := by
  have hEnd : EndsWord ('\x22' :: rest) := endsWord_cons (by simp [IsWordChar])
  rw [split, hLine, splitFrom_sentence hFront hEnd, splitFrom, if_neg (by decide), if_pos rfl,
    (splitFrom_unclosed _).1 hOpen]
  rfl

/-- A line is split if it is one in the grammar. -/
theorem split_eq_ok_iff {line : String} {args : List Arg} :
    split line = .ok args ↔ Sentence line.toList args := by
  refine ⟨fun h => ?_, split_sentence⟩
  obtain ⟨front, rest, found, hLine, hFront, hRest⟩ := exists_sentence line.toList
  -- the line is one of the grammar, for with a quote left over it would not be split
  cases hRest with
  | nothing =>
    rw [List.append_nil] at hLine
    rw [← hLine] at hFront
    have hFound := split_sentence hFront
    rw [h] at hFound
    cases hFound
    exact hFront
  | opened hOpen =>
    rw [split_unclosed hLine hFront hOpen] at h
    cases h

/-- A line that cannot be split has a quote behind its words that opens no word. -/
theorem split_eq_error_iff {line : String} {err : ExtractionError} :
    split line = .error err ↔
      ∃ front rest args, line.toList = front ++ '\x22' :: rest ∧ Sentence front args ∧
        Unclosed rest ∧ err = .malformed (.unterminatedQuote (utf8Len front + 1)) := by
  constructor
  · intro h
    obtain ⟨front, rest, found, hLine, hFront, hRest⟩ := exists_sentence line.toList
    cases hRest with
    | nothing =>
      rw [List.append_nil] at hLine
      rw [split_sentence (hLine ▸ hFront)] at h
      cases h
    | @opened rest hOpen =>
      rw [split_unclosed hLine hFront hOpen] at h
      cases h
      exact ⟨front, rest, found, hLine, hFront, hOpen, rfl⟩
  · rintro ⟨front, rest, args, hLine, hFront, hOpen, rfl⟩
    exact split_unclosed hLine hFront hOpen

/-- The words of a line are plain. -/
theorem plain_of_split {line : String} {args : List Arg} (h : split line = .ok args) :
    ∀ a ∈ args, a.Plain := by
  obtain ⟨gap, tokens, -, -, hTokens⟩ := split_eq_ok_iff.1 h
  clear h
  induction hTokens with
  | nil => simp
  | token hToken hGap hApart hRest ih => exact List.forall_mem_cons.2 ⟨hToken.plain, ih⟩

/-! ## Written lines -/

/-- Some words as they may stand in a line: each as it is written, with gaps between them. -/
inductive Spaced : List Arg → List Char → Prop
  | word (a : Arg) : Spaced [a] a.written
  | gap {a gap args cs} (hNonempty : gap ≠ []) (hGap : ∀ c ∈ gap, isGap c = true)
      (hRest : Spaced args cs) : Spaced (a :: args) (a.written ++ (gap ++ cs))

theorem sentence_spaced {args : List Arg} {cs : List Char} (h : Spaced args cs)
    (hPlain : ∀ a ∈ args, a.Plain) : Sentence cs args := by
  induction h with
  | word a =>
    have hToken : Token a.written a := token_written (hPlain a List.mem_cons_self)
    have hSentence := sentence_token hToken (fun _ => endsWord_nil) sentence_nil
    rwa [List.append_nil] at hSentence
  | @gap a gap args cs hNonempty hGap hRest ih =>
    obtain ⟨ha, hArgs⟩ := List.forall_mem_cons.1 hPlain
    exact sentence_token (token_written ha) (fun _ => endsWord_gap hNonempty hGap)
      (sentence_gap hGap (ih hArgs))

/-- Plain words are split as they stand, however wide the gaps are. -/
theorem split_spaced {args : List Arg} {cs : List Char} (h : Spaced args cs)
    (hPlain : ∀ a ∈ args, a.Plain) : split (String.ofList cs) = .ok args := by
  apply split_sentence
  rw [String.toList_ofList]
  exact sentence_spaced h hPlain

/-- The line of some words has single spaces between them. -/
theorem spaced_line {args : List Arg} (hNonempty : args ≠ []) :
    Spaced args ([' '].intercalate (args.map written)) := by
  induction args with
  | nil => exact absurd rfl hNonempty
  | cons a rest ih =>
    cases rest with
    | nil =>
      rw [List.map_singleton, List.intercalate_singleton]
      exact .word a
    | cons b rest =>
      rw [List.map_cons, List.map_cons, List.intercalate_cons_cons, List.append_assoc]
      exact .gap (List.cons_ne_nil _ _) (by simp [isGap]) (ih (List.cons_ne_nil _ _))

/-- Plain words are split as they were written. -/
theorem split_line {args : List Arg} (h : ∀ a ∈ args, a.Plain) : split (line args) = .ok args := by
  by_cases hNone : args = []
  · rw [hNone]
    rfl
  · exact split_spaced (spaced_line hNone) h

/-! ## Lines and their grammar -/

/-- Splitting accepts exactly the lines of the grammar, with their words. On any other line it names
the column of a quote that opens no word; what stands before that quote is a line of the grammar, so
it is the first of this kind. Plain words are found again where they are written. -/
theorem split_follows_grammar :
    (∀ line args, split line = .ok args ↔ Sentence line.toList args) ∧
    (∀ line err, split line = .error err ↔
      ∃ front rest args, line.toList = front ++ '\x22' :: rest ∧ Sentence front args ∧
        Unclosed rest ∧ err = .malformed (.unterminatedQuote (utf8Len front + 1))) ∧
    ∀ args, (∀ a ∈ args, a.Plain) → split (line args) = .ok args :=
  ⟨fun _ _ => split_eq_ok_iff, fun _ _ => split_eq_error_iff, fun _ => split_line⟩

-- a word may touch a quoted one, and columns count bytes
example : split "a\x22b\\\\\x22--" = .ok [.bare "a", .quoted "b\\", .separator] := by decide

example : split "é \x22b\\\x22" = .error (.malformed (.unterminatedQuote 4)) := by decide

end Arg

end HeaderFacts

import HeaderFacts.Proofs.Literals
import HeaderFacts.Row
import HeaderFacts.Text.Search
import Mathlib.Data.List.Basic
import Mathlib.Tactic.SplitIfs

/-!
# Quoted names

A quoted name is a literal of the name: printable ASCII between two double quotes, in which every
other double quote is escaped, and which is read back as the name. Whether a double quote is escaped
is told by the backslashes right before it, which escape each other in pairs: it is if there is an
odd number of them. The written form of a character never ends within such a pair, so the written
forms of the characters of a text do not run into each other.

Main definitions:

* `Text.closingBackslashes` — how many backslashes a text ends with.
* `Text.QuotesEscaped` — every double quote of a text is escaped.
* `Text.SelfContained` — a text that keeps its quotes escaped, and those behind it as they are.
* `Text.LiteralOf` — a literal of a text.

Main results:

* `SelfContained.append`, `selfContained_escapeChar` — written characters, one after another.
* `literalOf_quoted` — every text is quoted as a literal of it.
* `quoted_injective` — different texts are quoted differently.
* `quoted_faithful` — a quoted name denotes the name without its prefix.
-/

namespace HeaderFacts

namespace Text

/-! ## Escaped quotes -/

/-- How many backslashes a text ends with. -/
def closingBackslashes (text : List Char) : Nat :=
  (text.reverse.takeWhile (· = '\\')).length

/-- Every double quote stands behind an odd number of backslashes. -/
def QuotesEscaped (text : List Char) : Prop :=
  ∀ before after, text = before ++ '\x22' :: after → closingBackslashes before % 2 = 1

/-- The double quotes of a text are escaped, and a character behind the text is not escaped by it. -/
structure SelfContained (text : List Char) : Prop where
  escaped : QuotesEscaped text
  closed : closingBackslashes text % 2 = 0

/-- Backslashes reach into the text before if there is nothing else. -/
theorem closingBackslashes_append (l r : List Char) :
    closingBackslashes (l ++ r) =
      if closingBackslashes r = r.length then r.length + closingBackslashes l
      else closingBackslashes r := by
  unfold closingBackslashes
  rw [List.reverse_append, List.takeWhile_append, List.length_reverse]
  split
  · rw [List.length_append, List.length_reverse]
  · rfl

/-- Behind a text that escapes nothing, backslashes count as they do by themselves. -/
theorem closingBackslashes_append_mod {l : List Char} (h : closingBackslashes l % 2 = 0)
    (r : List Char) : closingBackslashes (l ++ r) % 2 = closingBackslashes r % 2 := by
  rw [closingBackslashes_append]
  split
  · next hAll => omega
  · rfl

theorem selfContained_nil : SelfContained [] := by
  refine ⟨fun before after h => ?_, rfl⟩
  simp at h

/-- Texts that are self-contained can stand one after the other. -/
theorem SelfContained.append {l r : List Char} (hl : SelfContained l) (hr : SelfContained r) :
    SelfContained (l ++ r) := by
  have hBehind := closingBackslashes_append_mod hl.closed
  refine ⟨?_, (hBehind r).trans hr.closed⟩
  intro before after hSplit
  rcases List.append_eq_append_iff.1 hSplit with ⟨part, rfl, hRight⟩ | ⟨part, hLeft, hRest⟩
  · -- the quote is one of the second text
    rw [hBehind part]
    exact hr.escaped part after hRight
  · cases part with
    | nil =>
      -- it would be the first character of the second text, with nothing to escape it
      have hNone : closingBackslashes [] % 2 = 1 := hr.escaped [] after hRest.symm
      exact absurd hNone (by decide)
    | cons c part =>
      -- it is one of the first text
      obtain ⟨rfl, -⟩ := List.cons.inj hRest
      exact hl.escaped before part hLeft

/-- A text without quotes is self-contained if it ends with something else than a backslash. -/
theorem selfContained_concat {text : List Char} {last : Char} (hQuote : '\x22' ∉ text ++ [last])
    (hLast : last ≠ '\\') : SelfContained (text ++ [last]) := by
  constructor
  · intro before after hSplit
    rw [hSplit] at hQuote
    exact absurd (by simp) hQuote
  · simp [closingBackslashes, hLast]

/-- A backslash and the sign that it escapes are self-contained, whatever that is. -/
theorem selfContained_escape (sign : Char) : SelfContained ['\\', sign] := by
  constructor
  · intro before after hSplit
    -- only the sign can be a quote
    match before, hSplit with
    | [], hSplit =>
      obtain ⟨hQuote, -⟩ := List.cons.inj hSplit
      exact absurd hQuote (by decide)
    | [first], hSplit =>
      -- it stands behind a single backslash
      obtain ⟨rfl, -⟩ := List.cons.inj hSplit
      rfl
    | _ :: _ :: _, hSplit => simp at hSplit
  · by_cases h : sign = '\\' <;> simp [closingBackslashes, h]

/-! ## Written characters -/

/-- Printable ASCII. -/
def IsPrintable (c : Char) : Prop :=
  0x20 ≤ c.toNat ∧ c.toNat ≤ 0x7e

instance (c : Char) : Decidable (IsPrintable c) :=
  inferInstanceAs (Decidable (_ ∧ _))

/-- Digits are letters or decimal digits. -/
theorem isPrintable_of_isDigitOf {c : Char} (h : isDigitOf 16 c = true) :
    IsPrintable c ∧ c ≠ '\x22' := by
  have hRange : 48 ≤ c.toNat ∧ c.toNat ≤ 102 := by
    unfold isDigitOf hexDigit? at h
    split_ifs at h with hDecimal hLower hUpper
    · have hLow : 48 ≤ c.toNat := hDecimal.1
      have hHigh : c.toNat ≤ 57 := hDecimal.2
      omega
    · have hLow : 97 ≤ c.toNat := hLower.1
      have hHigh : c.toNat ≤ 102 := hLower.2
      omega
    · have hLow : 65 ≤ c.toNat := hUpper.1
      have hHigh : c.toNat ≤ 70 := hUpper.2
      omega
    · simp at h
  refine ⟨⟨by omega, by omega⟩, ?_⟩
  rintro rfl
  exact absurd hRange.1 (by decide)

theorem isPrintable_of_mem_hexDigits {n : Nat} {c : Char} (h : c ∈ hexDigits n) :
    IsPrintable c ∧ c ≠ '\x22' :=
  isPrintable_of_isDigitOf (List.all_eq_true.1 (all_isDigitOf_hexDigits n) c h)

theorem isPrintable_of_escaped? {sign c : Char} (h : escaped? sign = some c) : IsPrintable sign := by
  unfold escaped? at h
  split_ifs at h with hTab hReturn hNewline hSelf
  · rw [hTab]
    decide
  · rw [hReturn]
    decide
  · rw [hNewline]
    decide
  · rcases hSelf with rfl | rfl | rfl <;> decide

/-- Every character is written in printable ASCII. -/
theorem isPrintable_of_mem_escapeChar {c d : Char} (h : d ∈ escapeChar c) : IsPrintable d := by
  rcases escapeChar_cases c with ⟨sign, hWritten, -, hEscaped⟩ | ⟨hWritten, -, -, hPrintable⟩ |
    hWritten
  · rw [hWritten, List.mem_pair] at h
    rcases h with rfl | rfl
    · decide
    · exact isPrintable_of_escaped? hEscaped
  · rw [hWritten, List.mem_singleton] at h
    exact h ▸ hPrintable
  · rw [hWritten, List.mem_append, List.mem_append, List.mem_singleton] at h
    rcases h with (h | h) | rfl
    · simp only [List.mem_cons, List.not_mem_nil, or_false] at h
      rcases h with rfl | rfl | rfl <;> decide
    · exact (isPrintable_of_mem_hexDigits h).1
    · decide

/-- The written form of a character is self-contained. -/
theorem selfContained_escapeChar (c : Char) : SelfContained (escapeChar c) := by
  rcases escapeChar_cases c with ⟨sign, hWritten, -⟩ | ⟨hWritten, hQuote, hBackslash, -⟩ | hWritten
  · rw [hWritten]
    exact selfContained_escape sign
  · have hAlone : '\x22' ∉ [] ++ [c] := by simpa using Ne.symm hQuote
    rw [hWritten]
    exact selfContained_concat hAlone hBackslash
  · have hDigits : '\x22' ∉ hexDigits c.toNat := fun h => (isPrintable_of_mem_hexDigits h).2 rfl
    rw [hWritten]
    exact selfContained_concat (by simpa using hDigits) (by decide)

/-! ## Literals -/

theorem selfContained_flatMap_escapeChar (text : List Char) :
    SelfContained (text.flatMap escapeChar) := by
  induction text with
  | nil => exact selfContained_nil
  | cons c text ih =>
    rw [List.flatMap_cons]
    exact (selfContained_escapeChar c).append ih

/-- A literal of a text: printable ASCII between double quotes, none of them unescaped, that is read
back as the text. -/
structure LiteralOf (text written : List Char) : Prop where
  enclosed : ∃ body, written = '\x22' :: (body ++ ['\x22']) ∧ (∀ c ∈ body, IsPrintable c) ∧
    QuotesEscaped body
  denoted : denoted? written = some text

/-- What is written for a text is a literal of it. -/
theorem literalOf_literal (text : List Char) : LiteralOf text (literal text) := by
  refine ⟨⟨text.flatMap escapeChar, rfl, ?_, (selfContained_flatMap_escapeChar text).escaped⟩,
    denoted?_literal text⟩
  intro d hWritten
  obtain ⟨c, -, hMem⟩ := List.mem_flatMap.1 hWritten
  exact isPrintable_of_mem_escapeChar hMem

/-- A literal is one of a single text. -/
theorem LiteralOf.unique {text other written : List Char} (h : LiteralOf text written)
    (hOther : LiteralOf other written) : text = other :=
  Option.some.inj (h.denoted.symm.trans hOther.denoted)

end Text

/-! ## Names -/

theorem literalOf_quoted (text : String) : Text.LiteralOf text.toList (quoted text).toList := by
  rw [quoted, String.toList_ofList]
  exact Text.literalOf_literal text.toList

/-- Different texts are quoted differently. -/
theorem quoted_injective : Function.Injective quoted := by
  intro text other h
  have hOther := literalOf_quoted other
  rw [← h] at hOther
  exact String.toList_inj.1 ((literalOf_quoted text).unique hOther)

namespace Options

/-- The prefix is removed from a name that begins with it, once. -/
theorem stripName_append {o : Options} {start : String} (h : o.stripped = some start)
    (rest : String) : o.stripName (start ++ rest) = rest := by
  have hRest : Text.stripStart? start.toList (start ++ rest).toList = some rest.toList := by
    rw [Text.stripStart?_eq_some, String.toList_append]
  simp only [stripName, h, hRest, String.ofList_toList]

/-- A name that does not begin with the prefix stays whole. -/
theorem stripName_of_no_prefix {o : Options} {name : String}
    (h : ∀ start, o.stripped = some start → ∀ rest, name ≠ start ++ rest) : o.stripName name = name := by
  unfold stripName
  cases hStripped : o.stripped with
  | none => rfl
  | some start =>
    cases hRest : Text.stripStart? start.toList name.toList with
    | none => simp only [hRest]
    | some rest =>
      have hName : name = start ++ String.ofList rest := by
        rw [← String.toList_inj, String.toList_append, String.toList_ofList]
        exact Text.stripStart?_eq_some.1 hRest
      exact absurd hName (h start hStripped _)

theorem formatName_quote {o : Options} (h : o.quote = true) (name : String) :
    o.formatName name = quoted (o.stripName name) := by
  rw [formatName, if_pos h]

end Options

/-- **Quoted names.** Every text is quoted as a literal of it, so that different texts are quoted
differently. A name that is quoted under `-Q` is written as a literal of what is left of it without
the prefix of `-s`, which is removed once, and of the whole name if it does not begin with that. -/
theorem quoted_faithful :
    (∀ text : String, Text.LiteralOf text.toList (quoted text).toList) ∧
      Function.Injective quoted ∧
      ∀ o : Options, o.quote = true →
        (∀ start rest : String, o.stripped = some start →
          Text.LiteralOf rest.toList (o.formatName (start ++ rest)).toList) ∧
        ∀ name, (∀ start, o.stripped = some start → ∀ rest, name ≠ start ++ rest) →
          Text.LiteralOf name.toList (o.formatName name).toList := by
  refine ⟨literalOf_quoted, quoted_injective, fun o hQuote => ⟨?_, ?_⟩⟩
  · intro start rest hStripped
    rw [Options.formatName_quote hQuote, Options.stripName_append hStripped]
    exact literalOf_quoted rest
  · intro name hNone
    rw [Options.formatName_quote hQuote, Options.stripName_of_no_prefix hNone]
    exact literalOf_quoted name

/-- A prefix that stands twice is removed once, and what is left has quotes, a backslash and a letter
that are written as escapes. -/
theorem quoted_faithful_twice :
    let o : Options := { stripped := some "A_", quote := true }
    let rest := "A_\x22\\é"
    o.quote = true ∧ o.stripped = some "A_" ∧
      o.formatName ("A_" ++ rest) = "\x22A_\\\x22\\\\\\u\x7be9\x7d\x22" ∧
      Text.LiteralOf rest.toList (o.formatName ("A_" ++ rest)).toList := by
  intro o rest
  obtain ⟨-, -, hNames⟩ := quoted_faithful
  exact ⟨rfl, rfl, by decide +kernel, (hNames o rfl).1 "A_" rest rfl⟩

end HeaderFacts

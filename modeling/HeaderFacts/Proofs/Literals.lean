import HeaderFacts.Text.Denotation
import HeaderFacts.Text.Literal
import Mathlib.Tactic.SplitIfs

/-!
# Literals denote their texts

Reading a literal gives back the text it was written for, whatever characters that holds. A
character is written in one of three ways: as itself, as an escape of one sign, or by the digits of
its code point. Each is read as that character, and the reading then stands where it stood before.

Main results:

* `numeral?_hexDigits` — the digits of a number are its numeral.
* `escapeChar_cases` — the three ways in which a character is written.
* `denotedFrom_escapeChar` — one written character is read back.
* `denoted?_literal` — a literal denotes the text that it was written for.
-/

namespace HeaderFacts.Text

/-! ## Digits -/

theorem hexDigit?_digitChar {n : Nat} (h : n < 16) : hexDigit? n.digitChar = some n := by
  decide +revert

theorem isDigitOf_digitChar {n : Nat} (h : n < 16) : isDigitOf 16 n.digitChar = true := by
  simp [isDigitOf, hexDigit?_digitChar h, h]

theorem hexDigits_of_le {n : Nat} (h : 16 ≤ n) :
    hexDigits n = hexDigits (n / 16) ++ [(n % 16).digitChar] :=
  Nat.toDigits_of_base_le (by decide) h

theorem all_isDigitOf_hexDigits (n : Nat) : (hexDigits n).all (isDigitOf 16) = true := by
  -- without its last digit a number is a sixteenth of itself
  induction n using Nat.strongRecOn with
  | ind n ih =>
    rcases Nat.lt_or_ge n 16 with hLt | hGe
    · simp [hexDigits, Nat.toDigits_of_lt_base hLt, isDigitOf_digitChar hLt]
    · have hLast : n % 16 < 16 := Nat.mod_lt _ (by decide)
      rw [hexDigits_of_le hGe, List.all_append, ih (n / 16) (by omega)]
      simp [isDigitOf_digitChar hLast]

theorem numeral_hexDigits (n : Nat) : numeral 16 (hexDigits n) = n := by
  induction n using Nat.strongRecOn with
  | ind n ih =>
    rcases Nat.lt_or_ge n 16 with hLt | hGe
    · simp [hexDigits, Nat.toDigits_of_lt_base hLt, numeral, hexDigit?_digitChar hLt]
    · have hLast : n % 16 < 16 := Nat.mod_lt _ (by decide)
      rw [hexDigits_of_le hGe, numeral_append_singleton, ih (n / 16) (by omega),
        hexDigit?_digitChar hLast, Option.getD_some]
      omega

/-- The digits of a number are its numeral. -/
theorem numeral?_hexDigits (n : Nat) : numeral? 16 (hexDigits n) = some n := by
  rw [numeral?, if_pos (all_isDigitOf_hexDigits n), numeral_hexDigits]

theorem brace_not_mem_hexDigits (n : Nat) : '\x7d' ∉ hexDigits n := by
  intro h
  have hDigit : isDigitOf 16 '\x7d' = true := List.all_eq_true.1 (all_isDigitOf_hexDigits n) _ h
  exact absurd hDigit (by decide)

/-- The digits of a code point give its character. -/
theorem scalar?_hexDigits (c : Char) : scalar? (hexDigits c.toNat) = some c := by
  have hValid : c.toNat.isValidChar := c.valid
  -- the last code point has six digits
  have hBound : c.toNat < 16 ^ 6 := by
    rcases hValid with h | ⟨-, h⟩ <;> omega
  have hLength : 1 ≤ (hexDigits c.toNat).length ∧ (hexDigits c.toNat).length ≤ 6 :=
    ⟨Nat.length_toDigits_pos, (Nat.length_toDigits_le_iff (by decide) (by decide)).2 hBound⟩
  rw [scalar?, if_pos hLength, numeral?_hexDigits, Option.bind_some, if_pos hValid,
    Char.ofNat_toNat]

/-! ## Characters -/

/-- The digits of a code point are read up to the closing brace. -/
theorem denotedFrom_code {digits : List Char} (h : '\x7d' ∉ digits) (read rest : List Char) :
    denotedFrom (.code read) (digits ++ '\x7d' :: rest) =
      (scalar? (read ++ digits)).bind fun c => (denotedFrom .plain rest).map (c :: ·) := by
  -- digits are collected up to the brace, which none of them is
  induction digits generalizing read with
  | nil => rw [List.nil_append, denotedFrom, if_pos rfl, List.append_nil]
  | cons d digits ih =>
    rw [List.mem_cons, not_or] at h
    obtain ⟨hHead, hTail⟩ := h
    rw [List.cons_append, denotedFrom, if_neg (Ne.symm hHead), ih hTail, List.append_assoc]
    rfl

/-- An escape of one sign is read as its character. -/
theorem denotedFrom_escape {sign c : Char} (hCode : sign ≠ 'u') (h : escaped? sign = some c)
    (rest : List Char) :
    denotedFrom .plain ('\\' :: sign :: rest) = (denotedFrom .plain rest).map (c :: ·) := by
  rw [denotedFrom, if_neg (by decide), if_pos rfl, denotedFrom, if_neg hCode, h, Option.bind_some]

/-- The three ways in which a character is written. -/
theorem escapeChar_cases (c : Char) :
    (∃ sign, escapeChar c = ['\\', sign] ∧ sign ≠ 'u' ∧ escaped? sign = some c) ∨
      (escapeChar c = [c] ∧ c ≠ '\x22' ∧ c ≠ '\\' ∧ 0x20 ≤ c.toNat ∧ c.toNat ≤ 0x7e) ∨
        escapeChar c = ['\\', 'u', '\x7b'] ++ hexDigits c.toNat ++ ['\x7d'] := by
  rw [escapeChar]
  split_ifs with hTab hReturn hNewline hApostrophe hQuote hBackslash hPrintable
  · exact Or.inl ⟨'t', rfl, by decide, by rw [hTab]; rfl⟩
  · exact Or.inl ⟨'r', rfl, by decide, by rw [hReturn]; rfl⟩
  · exact Or.inl ⟨'n', rfl, by decide, by rw [hNewline]; rfl⟩
  · exact Or.inl ⟨'\x27', rfl, by decide, by rw [hApostrophe]; rfl⟩
  · exact Or.inl ⟨'\x22', rfl, by decide, by rw [hQuote]; rfl⟩
  · exact Or.inl ⟨'\\', rfl, by decide, by rw [hBackslash]; rfl⟩
  · exact Or.inr (Or.inl ⟨rfl, hQuote, hBackslash, hPrintable⟩)
  · exact Or.inr (Or.inr rfl)

/-- One written character is read back, whatever follows it. -/
theorem denotedFrom_escapeChar (c : Char) (rest : List Char) :
    denotedFrom .plain (escapeChar c ++ rest) = (denotedFrom .plain rest).map (c :: ·) := by
  rcases escapeChar_cases c with ⟨sign, hWritten, hSign, hEscaped⟩ |
    ⟨hWritten, hQuote, hBackslash, -⟩ | hWritten
  · rw [hWritten]
    exact denotedFrom_escape hSign hEscaped rest
  · rw [hWritten, List.singleton_append, denotedFrom, if_neg hQuote, if_neg hBackslash]
  · rw [hWritten, List.append_assoc, List.append_assoc]
    show denotedFrom (.code []) (hexDigits c.toNat ++ '\x7d' :: rest) = _
    rw [denotedFrom_code (brace_not_mem_hexDigits c.toNat), List.nil_append, scalar?_hexDigits,
      Option.bind_some]

/-! ## Texts -/

theorem denotedFrom_flatMap_escapeChar (text : List Char) :
    denotedFrom .plain (text.flatMap escapeChar ++ ['\x22']) = some text := by
  induction text with
  | nil => rfl
  | cons c text ih =>
    rw [List.flatMap_cons, List.append_assoc, denotedFrom_escapeChar, ih, Option.map_some]

/-- **Literals.** A literal denotes the text that it was written for. -/
theorem denoted?_literal (text : List Char) : denoted? (literal text) = some text := by
  rw [literal, denoted?, if_pos rfl, denotedFrom_flatMap_escapeChar]

end HeaderFacts.Text

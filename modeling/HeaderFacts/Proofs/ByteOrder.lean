import Mathlib.Data.String.Basic
import Mathlib.Tactic.SplitIfs

/-!
# The byte order of texts

Texts compare by their code points, character by character. In UTF-8 a greater code point has a
greater first byte, or the same first byte and greater digits behind it, and how many bytes belong
to a character is told by its first one. So the order of two texts is the order of their bytes.

Main definitions:

* `Text.bytes` — the bytes of a text.
* `Text.leading`, `Text.trailing`, `Text.continuation` — the number in the first byte of a character,
  how many bytes follow it, and these bytes.

Main results:

* `utf8EncodeChar_eq` — the bytes of a character, from its code point.
* `utf8EncodeChar_append_lt` — the first different character decides.
* `bytes_lt_iff` — the order of texts is the order of their bytes.
-/

namespace HeaderFacts.Text

/-- The bytes of a text. -/
def bytes (text : String) : List UInt8 :=
  text.toUTF8.data.toList

theorem bytes_eq_flatMap (text : String) : bytes text = text.toList.flatMap String.utf8EncodeChar := by
  have hText : (String.ofList text.toList).toUTF8 =
      (text.toList.flatMap String.utf8EncodeChar).toByteArray := rfl
  rw [String.ofList_toList] at hText
  rw [bytes, hText, List.data_toByteArray]

/-! ## Digits of code points -/

/-- The last `k` digits of a code point in base 64, one in each byte. -/
def continuation : Nat → Nat → List UInt8
  | 0, _ => []
  | k + 1, v => continuation k (v / 64) ++ [UInt8.ofNat (v % 64 + 128)]

/-- How many bytes follow the first one of a code point. -/
def trailing (v : Nat) : Nat :=
  if v ≤ 0x7f then 0 else if v ≤ 0x7ff then 1 else if v ≤ 0xffff then 2 else 3

/-- The number in the first byte of a code point. -/
def leading (v : Nat) : Nat :=
  if v ≤ 0x7f then v
  else if v ≤ 0x7ff then v / 64 + 192
  else if v ≤ 0xffff then v / 4096 + 224
  else v / 262144 + 240

theorem toNat_lt (c : Char) : c.val.toNat < 0x110000 := by
  rcases c.valid with h | ⟨-, h⟩ <;> omega

theorem leading_lt {v : Nat} (h : v < 0x110000) : leading v < 256 := by
  unfold leading
  split_ifs <;> omega

/-- A character is written as its first byte and the digits that this has left over. -/
theorem utf8EncodeChar_eq (c : Char) :
    String.utf8EncodeChar c =
      UInt8.ofNat (leading c.val.toNat) :: continuation (trailing c.val.toNat) c.val.toNat := by
  have hBound := toNat_lt c
  rw [String.utf8EncodeChar.eq_1]
  generalize c.val.toNat = v at hBound
  unfold leading trailing
  -- one case for each number of bytes; the first byte holds a quotient that it has room for
  split_ifs with hOne hTwo hThree
  · rfl
  · have hLead : v / 64 % 32 = v / 64 := by omega
    simp only [hLead]
    rfl
  · have hLead : v / 4096 % 16 = v / 4096 := by omega
    simp only [hLead, continuation]
    rfl
  · have hLead : v / 262144 % 8 = v / 262144 := by omega
    simp only [hLead, continuation, Nat.div_div_eq_div_mul]
    rfl

/-! ## The order of characters -/

theorem byte_lt_iff {m n : Nat} (hm : m < 256) (hn : n < 256) :
    UInt8.ofNat m < UInt8.ofNat n ↔ m < n := by
  rw [UInt8.lt_iff_toNat_lt, UInt8.toNat_ofNat_of_lt' hm, UInt8.toNat_ofNat_of_lt' hn]

/-- Digits compare as the numbers do that agree in what stands before the digits. -/
theorem continuation_append_lt {k v w : Nat} (hSame : v / 64 ^ k = w / 64 ^ k) (hLess : v < w)
    (l r : List UInt8) : continuation k v ++ l < continuation k w ++ r := by
  -- by induction on the number of digits, the last one of which is taken off
  induction k generalizing v w l r with
  | zero =>
    -- without digits the numbers would be the same
    simp only [Nat.pow_zero, Nat.div_one] at hSame
    omega
  | succ k ih =>
    rw [continuation, continuation, List.append_assoc, List.append_assoc]
    rcases Nat.lt_or_ge (v / 64) (w / 64) with hFront | hFront
    · -- the digits before the last one decide
      have hRest : v / 64 / 64 ^ k = w / 64 / 64 ^ k := by
        rw [Nat.div_div_eq_div_mul, Nat.div_div_eq_div_mul, ← Nat.pow_succ']
        exact hSame
      exact ih hRest hFront _ _
    · -- the last digit decides
      have hEqual : v / 64 = w / 64 := by omega
      have hLast : UInt8.ofNat (v % 64 + 128) < UInt8.ofNat (w % 64 + 128) := by
        rw [byte_lt_iff] <;> omega
      rw [hEqual]
      exact List.append_left_lt (List.cons_lt_cons_iff.2 (Or.inl hLast))

/-- Of two code points the greater one has the greater first byte, or they agree in it and in how
many bytes follow. -/
theorem leading_cases {v w : Nat} (hLess : v < w) (hBound : w < 0x110000) :
    leading v < leading w ∨
      leading v = leading w ∧ trailing v = trailing w ∧
        v / 64 ^ trailing v = w / 64 ^ trailing v := by
  unfold leading trailing
  split_ifs <;> omega

/-- The first different character decides, whatever follows. -/
theorem utf8EncodeChar_append_lt {c d : Char} (h : c < d) (l r : List UInt8) :
    String.utf8EncodeChar c ++ l < String.utf8EncodeChar d ++ r := by
  have hLess : c.val.toNat < d.val.toNat := h
  rw [utf8EncodeChar_eq, utf8EncodeChar_eq, List.cons_append, List.cons_append,
    List.cons_lt_cons_iff]
  rcases leading_cases hLess (toNat_lt d) with hLead | ⟨hLead, hLength, hFront⟩
  · left
    exact (byte_lt_iff (leading_lt (toNat_lt c)) (leading_lt (toNat_lt d))).2 hLead
  · right
    refine ⟨congrArg UInt8.ofNat hLead, ?_⟩
    rw [← hLength]
    exact continuation_append_lt hFront hLess l r

/-! ## The order of texts -/

theorem flatMap_utf8EncodeChar_lt {s t : List Char} (h : s < t) :
    s.flatMap String.utf8EncodeChar < t.flatMap String.utf8EncodeChar := by
  induction s generalizing t with
  | nil =>
    cases t with
    | nil => exact absurd h (List.lt_irrefl _)
    | cons d t =>
      rw [List.flatMap_cons, utf8EncodeChar_eq]
      exact List.nil_lt_cons _ _
  | cons c s ih =>
    cases t with
    | nil => exact absurd h (List.not_lt_nil _)
    | cons d t =>
      rw [List.flatMap_cons, List.flatMap_cons]
      rcases List.cons_lt_cons_iff.1 h with hHead | ⟨rfl, hTail⟩
      · exact utf8EncodeChar_append_lt hHead _ _
      · exact List.append_left_lt (ih hTail)

theorem bytes_lt_of_lt {s t : String} (h : s < t) : bytes s < bytes t := by
  rw [bytes_eq_flatMap, bytes_eq_flatMap]
  exact flatMap_utf8EncodeChar_lt (String.lt_iff_toList_lt.1 h)

/-- **The order of texts.** It is the order of their bytes. -/
theorem bytes_lt_iff (s t : String) : bytes s < bytes t ↔ s < t := by
  refine ⟨fun h => ?_, bytes_lt_of_lt⟩
  rcases lt_trichotomy s t with hLess | rfl | hGreater
  · exact hLess
  · exact absurd h (List.lt_irrefl _)
  · exact absurd h (List.lt_asymm (bytes_lt_of_lt hGreater))

end HeaderFacts.Text

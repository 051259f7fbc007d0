/-!
# Numerals

The values of digits in bases up to sixteen, and the numbers that runs of digits denote.

Main definitions:

* `Text.hexDigit?` — the value of a digit.
* `Text.numeral`, `Text.numeral?` — the number that digits denote.

Main results:

* `numeral_append_singleton` — one more digit multiplies the number by the base and adds to it.
-/

namespace HeaderFacts.Text

/-- The value of a decimal or hexadecimal digit. -/
def hexDigit? (c : Char) : Option Nat :=
  if '0' ≤ c ∧ c ≤ '9' then some (c.toNat - 48)
  else if 'a' ≤ c ∧ c ≤ 'f' then some (c.toNat - 87)
  else if 'A' ≤ c ∧ c ≤ 'F' then some (c.toNat - 55)
  else none

/-- Whether a character is a digit of a base. -/
def isDigitOf (base : Nat) (c : Char) : Bool :=
  (hexDigit? c).any (· < base)

/-- The number that digits denote; a character that is none counts as zero. -/
def numeral (base : Nat) (digits : List Char) : Nat :=
  digits.foldl (fun n c => n * base + (hexDigit? c).getD 0) 0

/-- The number that characters denote if all of them are digits. -/
def numeral? (base : Nat) (cs : List Char) : Option Nat :=
  if cs.all (isDigitOf base) then some (numeral base cs) else none

/-- One more digit multiplies the number by the base and adds to it. -/
theorem numeral_append_singleton (base : Nat) (digits : List Char) (c : Char) :
    numeral base (digits ++ [c]) = numeral base digits * base + (hexDigit? c).getD 0 := by
  simp [numeral]

end HeaderFacts.Text

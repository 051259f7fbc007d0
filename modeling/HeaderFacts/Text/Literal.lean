/-!
# String literals

A text written between double quotes in printable ASCII. Tab, carriage return, newline, quotes and
backslash have escapes of their own; every other character outside `0x20`–`0x7e` is written by its
code point, as `\u` with lower-case hexadecimal digits between braces.

Main definitions:

* `Text.hexDigits` — the lower-case hexadecimal digits of a number.
* `Text.escapeChar` — the written form of one character.
* `Text.literal` — the literal of a text.
-/

namespace HeaderFacts.Text

/-- Lower-case hexadecimal digits of a number, without leading zeros. -/
def hexDigits (n : Nat) : List Char :=
  Nat.toDigits 16 n

/-- How one character is written inside a literal. -/
def escapeChar (c : Char) : List Char :=
  if c = '\t' then ['\\', 't']
  else if c = '\r' then ['\\', 'r']
  else if c = '\n' then ['\\', 'n']
  else if c = '\x27' then ['\\', '\x27']
  else if c = '\x22' then ['\\', '\x22']
  else if c = '\\' then ['\\', '\\']
  else if 0x20 ≤ c.toNat ∧ c.toNat ≤ 0x7e then [c]
  else ['\\', 'u', '\x7b'] ++ hexDigits c.toNat ++ ['\x7d']

/-- The literal that denotes a text. -/
def literal (text : List Char) : List Char :=
  '\x22' :: (text.flatMap escapeChar ++ ['\x22'])

end HeaderFacts.Text

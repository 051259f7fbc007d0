import HeaderFacts.Text.Numeral

/-!
# What string literals denote

Reads a literal back. Between its quotes a backslash begins an escape: a letter for tab, carriage
return or newline, a quote or a backslash for itself, or the hexadecimal digits of a code point
between braces. Everything else stands for itself, and the closing quote ends the literal.

Main definitions:

* `Text.escaped?` — the character of an escape of one sign.
* `Text.scalar?` — the character of a code point.
* `Text.denoted?` — the text that a literal denotes.
-/

namespace HeaderFacts.Text

/-- The character of an escape of one sign. -/
def escaped? (c : Char) : Option Char :=
  if c = 't' then some '\t'
  else if c = 'r' then some '\r'
  else if c = 'n' then some '\n'
  else if c = '\x27' ∨ c = '\x22' ∨ c = '\\' then some c
  else none

/-- The character of a code point, which has one to six hexadecimal digits. Surrogates are no
characters. -/
def scalar? (digits : List Char) : Option Char :=
  if 1 ≤ digits.length ∧ digits.length ≤ 6 then
    (numeral? 16 digits).bind fun n => if n.isValidChar then some (Char.ofNat n) else none
  else none

/-- Where the reading of a literal stands. -/
inductive LiteralPlace where
  | plain
  /-- After a backslash. -/
  | escape
  /-- Before the opening brace of a code point. -/
  | brace
  /-- Among the digits of a code point. -/
  | code (digits : List Char)
  deriving DecidableEq, Repr

/-- Reads what is left of a literal, its closing quote included. -/
def denotedFrom : LiteralPlace → List Char → Option (List Char)
  | _, [] => none
  | .plain, c :: rest =>
    if c = '\x22' then if rest.isEmpty then some [] else none
    else if c = '\\' then denotedFrom .escape rest
    else (denotedFrom .plain rest).map (c :: ·)
  | .escape, c :: rest =>
    if c = 'u' then denotedFrom .brace rest
    else (escaped? c).bind fun e => (denotedFrom .plain rest).map (e :: ·)
  | .brace, c :: rest => if c = '\x7b' then denotedFrom (.code []) rest else none
  | .code digits, c :: rest =>
    if c = '\x7d' then (scalar? digits).bind fun e => (denotedFrom .plain rest).map (e :: ·)
    else denotedFrom (.code (digits ++ [c])) rest

/-- The text that a literal denotes. -/
def denoted? : List Char → Option (List Char)
  | [] => none
  | c :: rest => if c = '\x22' then denotedFrom .plain rest else none

end HeaderFacts.Text

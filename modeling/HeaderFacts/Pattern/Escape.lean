import HeaderFacts.Pattern.Flags
import HeaderFacts.Text.Numeral

/-!
# Escapes of a pattern

What a backslash and the characters after it stand for: a character, a set of characters or an
assertion. A letter or digit that is no escape is refused, and any other ASCII character stands
for itself. There are no classes of the characters with a Unicode property.

Main definitions:

* `Escape` — what an escape stands for.
* `Escape.read?` — reads one, the backslash already read.
-/

namespace HeaderFacts.Pattern

/-- What an escape stands for. -/
inductive Escape where
  | char (c : Char)
  | set (s : CharSet)
  | look (l : Look)
  deriving DecidableEq, Repr

/-! ## Code points -/

/-- The character of a code point, unless that is a surrogate or beyond Unicode. -/
def charOf? (n : Nat) : Option Char :=
  if n.isValidChar then some (Char.ofNat n) else none

/-- Reads exactly `n` characters, between which verbose patterns may have blanks. -/
def readExactly (f : Flags) : Nat → List Char → Option (List Char × List Char)
  | 0, cs => some ([], cs)
  | _ + 1, [] => none
  | n + 1, c :: cs => (readExactly f n (f.skip cs)).map fun (read, rest) => (c :: read, rest)

/-- Reads a code point: digits between braces, or exactly `width` digits. Two digits without braces
are a byte if Unicode is off, and a byte that is no ASCII character is refused. -/
def readCodePoint (f : Flags) (width : Nat) (cs : List Char) : Option (Char × List Char) :=
  match f.skip cs with
  | [] => none
  | '\x7b' :: cs =>
    match f.run (Text.isDigitOf 16) false cs with
    | ([], _) => none
    | (digits, '\x7d' :: rest) => (charOf? (Text.numeral 16 digits)).map (·, f.skip rest)
    | _ => none
  | cs => do
    let (digits, rest) ← readExactly f width cs
    let c ← charOf? (← Text.numeral? 16 digits)
    if width = 2 ∧ !f.unicode ∧ 0x7f < c.toNat then none else return (c, rest)

/-! ## Classes and word edges -/

/-- The set of a class letter; capitals name the complements. Without Unicode a complement is
refused, since it would match parts of characters. -/
def classSet? (f : Flags) (c : Char) : Option CharSet :=
  let digits := if f.unicode then .digit else .range '0' '9'
  let blanks := if f.unicode then .blank else .asciiBlank
  let words := if f.unicode then .word else .asciiWord
  match c with
  | 'd' => some digits
  | 's' => some blanks
  | 'w' => some words
  | 'D' => if f.unicode then some (.compl digits) else none
  | 'S' => if f.unicode then some (.compl blanks) else none
  | 'W' => if f.unicode then some (.compl words) else none
  | _ => none

/-- Reads what follows `\b`: nothing, or the name of one kind of word edge between braces. A brace
that no letter or hyphen follows is left to be read as a repetition. -/
def readWordEdge (f : Flags) (cs : List Char) : Option (Look × List Char) :=
  let isNameChar (c : Char) : Bool := c.isAlpha || c == '-'
  match cs with
  | '\x7b' :: inside =>
    match f.skip inside with
    | [] => none
    | c :: rest =>
      if isNameChar c then
        match f.run isNameChar false (c :: rest) with
        | (name, '\x7d' :: rest) =>
          match String.ofList name with
          | "start" => some (.wordStart !f.unicode, rest)
          | "end" => some (.wordEnd !f.unicode, rest)
          | "start-half" => some (.wordStartHalf !f.unicode, rest)
          | "end-half" => some (.wordEndHalf !f.unicode, rest)
          | _ => none
        | _ => none
      else some (.wordEdge !f.unicode, cs)
  | _ => some (.wordEdge !f.unicode, cs)

/-! ## Escapes -/

/-- Reads an escape, given what follows its backslash. -/
def Escape.read? (f : Flags) : List Char → Option (Escape × List Char)
  | [] => none
  | c :: cs =>
    match c with
    | 'x' => (readCodePoint f 2 cs).map fun (c, rest) => (.char c, rest)
    | 'u' => (readCodePoint f 4 cs).map fun (c, rest) => (.char c, rest)
    | 'U' => (readCodePoint f 8 cs).map fun (c, rest) => (.char c, rest)
    | 'a' => some (.char '\x07', cs)
    | 'f' => some (.char '\x0c', cs)
    | 't' => some (.char '\t', cs)
    | 'n' => some (.char '\n', cs)
    | 'r' => some (.char '\r', cs)
    | 'v' => some (.char '\x0b', cs)
    | 'A' => some (.look .textStart, cs)
    | 'z' => some (.look .textEnd, cs)
    | 'b' => (readWordEdge f cs).map fun (l, rest) => (.look l, rest)
    | 'B' => some (.look (.noWordEdge !f.unicode), cs)
    | '<' => some (.look (.wordStart !f.unicode), cs)
    | '>' => some (.look (.wordEnd !f.unicode), cs)
    | _ =>
      match classSet? f c with
      | some s => some (.set s, cs)
      | none =>
        if c.toNat ≤ 0x7f && !c.isAlphanum then some (.char c, cs) else none

end HeaderFacts.Pattern

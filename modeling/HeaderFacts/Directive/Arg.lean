import HeaderFacts.Error

/-!
# Arguments of a directive

A directive is a line of words. Space, tab, carriage return and newline separate words; a word of
two hyphens is a separator; a word between double quotes may hold anything, and a backslash in it
makes the next character stand for itself, but cannot stand before a newline.

Main definitions:

* `Arg` — a word of a directive.
* `Arg.split` — the words of a text, or the place of a quote that is never closed.
-/

namespace HeaderFacts

/-- A word of a directive. -/
inductive Arg where
  | bare (text : String)
  | quoted (text : String)
  | separator
  deriving DecidableEq, Repr

namespace Arg

/-- The text of a word. -/
def text : Arg → String
  | bare t => t
  | quoted t => t
  | separator => "--"

/-- Whether a word is a flag: unquoted, with a hyphen and something after it. -/
def isFlag : Arg → Bool
  | bare t =>
    match t.toList with
    | '-' :: _ :: _ => true
    | _ => false
  | _ => false

/-! ## Splitting -/

/-- Whether a character separates words. -/
def isGap (c : Char) : Bool :=
  c == ' ' || c == '\t' || c == '\r' || c == '\n'

/-- The unquoted word of some characters. -/
def ofWord (cs : List Char) : Arg :=
  if cs = ['-', '-'] then separator else bare (String.ofList cs)

/-- Where splitting stands within a line. Characters read so far are in reverse; `start` is the
byte at which a quote was opened. -/
inductive Reading where
  | gap
  | word (read : List Char)
  | quote (start : Nat) (read : List Char)
  | escape (start : Nat) (read : List Char)
  deriving DecidableEq, Repr

/-- Splits what is left of a line into words, from the byte `offset` on. -/
def splitFrom (offset : Nat) : Reading → List Char → Except Malformed (List Arg)
  | .gap, [] => .ok []
  | .word read, [] => .ok [ofWord read.reverse]
  | .quote start _, [] => .error (.unterminatedQuote (start + 1))
  | .escape start _, [] => .error (.unterminatedQuote (start + 1))
  | .gap, c :: cs =>
    let next := offset + c.utf8Size
    if isGap c then splitFrom next .gap cs
    else if c = '\x22' then splitFrom next (.quote offset []) cs
    else splitFrom next (.word [c]) cs
  | .word read, c :: cs =>
    let next := offset + c.utf8Size
    if isGap c then (splitFrom next .gap cs).map (ofWord read.reverse :: ·)
    else if c = '\x22' then
      (splitFrom next (.quote offset []) cs).map (ofWord read.reverse :: ·)
    else splitFrom next (.word (c :: read)) cs
  | .quote start read, c :: cs =>
    let next := offset + c.utf8Size
    if c = '\x22' then
      (splitFrom next .gap cs).map (quoted (String.ofList read.reverse) :: ·)
    else if c = '\\' then splitFrom next (.escape start read) cs
    else splitFrom next (.quote start (c :: read)) cs
  | .escape start read, c :: cs =>
    if c = '\n' then .error (.unterminatedQuote (start + 1))
    else splitFrom (offset + c.utf8Size) (.quote start (c :: read)) cs

/-- The words of a line. -/
def split (line : String) : Except ExtractionError (List Arg) :=
  (splitFrom 0 .gap line.toList).mapError .malformed

end Arg

end HeaderFacts

/-!
# Places in YAML text

The text still to be read together with the place reached, which YAML needs because the column of a
token decides where it belongs.

Main definitions:

* `Cursor` — the rest of a text and the place where it begins.
* `Cursor.step`, `Cursor.stepLine` — the cursor after a character or a line break.
* `isReadable` — the characters that may occur in YAML text.
-/

namespace HeaderFacts.Yaml

/-! ## Characters -/

/-- Whether a character may occur in YAML text. -/
def isReadable (c : Char) : Bool :=
  let n := c.toNat
  n == 0x09 || n == 0x0A || n == 0x0D || (0x20 ≤ n && n ≤ 0x7E) || n == 0x85 ||
    (0xA0 ≤ n && n ≤ 0xD7FF) || (0xE000 ≤ n && n ≤ 0xFFFD && n != 0xFEFF) || 0x10000 ≤ n

/-- A space or a tab. -/
def isPad (c : Char) : Bool :=
  c == ' ' || c == '\t'

/-- A character that ends a line. -/
def isBreak (c : Char) : Bool :=
  c == '\n' || c == '\r' || c == '\u0085' || c == '\u2028' || c == '\u2029'

/-- Whether a text begins with a space, a tab or a line break, or is at its end. -/
def atGap : List Char → Bool
  | [] => true
  | c :: _ => isPad c || isBreak c

/-- Whether a text is at the end of a line. -/
def atLineEnd : List Char → Bool
  | [] => true
  | c :: _ => isBreak c

/-! ## Cursors -/

/-- The rest of a text and the place where it begins. -/
structure Cursor where
  rest : List Char
  line : Nat := 0
  column : Nat := 0
  index : Nat := 0
  deriving Repr

namespace Cursor

/-- The cursor after the next character, on the same line. -/
def step (c : Cursor) : Cursor :=
  { c with rest := c.rest.drop 1, column := c.column + 1, index := c.index + 1 }

/-- The cursor some characters further on, on the same line. -/
def steps (c : Cursor) (n : Nat) : Cursor :=
  { c with rest := c.rest.drop n, column := c.column + n, index := c.index + n }

/-- The cursor after the line break that comes next. -/
def stepLine (c : Cursor) : Cursor :=
  let width := match c.rest with
    | '\r' :: '\n' :: _ => 2
    | _ => 1
  { rest := c.rest.drop width, line := c.line + 1, column := 0, index := c.index + width }

/-- The characters that the line break that comes next stands for. -/
def breakText (c : Cursor) : List Char :=
  match c.rest with
  | '\u2028' :: _ => ['\u2028']
  | '\u2029' :: _ => ['\u2029']
  | [] => []
  | _ => ['\n']

/-- The cursor after the characters of a class that come next; no line break may be of the class. -/
def skipWhile (c : Cursor) (p : Char → Bool) : Cursor :=
  c.steps (c.rest.takeWhile p).length

/-- The cursor at the end of the line. -/
def skipToLineEnd (c : Cursor) : Cursor :=
  c.skipWhile (!isBreak ·)

/-- Whether a document marker stands here: three hyphens or three dots at the start of a line. -/
def atDocumentMarker (c : Cursor) : Bool :=
  c.column == 0 &&
    match c.rest with
    | '-' :: '-' :: '-' :: rest => atGap rest
    | '.' :: '.' :: '.' :: rest => atGap rest
    | _ => false

end Cursor

end HeaderFacts.Yaml

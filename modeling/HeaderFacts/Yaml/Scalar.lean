import HeaderFacts.Text.Numeral
import HeaderFacts.Yaml.Cursor

/-!
# YAML scalars

The texts of scalars in their five styles. Line breaks inside plain and quoted scalars fold to a
space, or to one break fewer than there are; block scalars keep or fold theirs and cut off the tail
as their header says.

Main definitions:

* `ScalarStyle` — the styles.
* `readPlain`, `readSingle`, `readDouble`, `readBlock` — the text of a scalar of a style.
-/

namespace HeaderFacts.Yaml

/-- The style of a scalar. -/
inductive ScalarStyle where
  | plain
  | singleQuoted
  | doubleQuoted
  | literal
  | folded
  deriving DecidableEq, Repr

/-- Line breaks between two parts of a scalar, folded: the first becomes a space unless more
follow. -/
def foldBreaks (first more : List Char) : List Char :=
  if first.head? = some '\n' then
    if more.isEmpty then [' '] else more
  else first ++ more

/-- What stands between two parts of a scalar: spaces and tabs, or line breaks. -/
structure Spacing where
  pads : List Char := []
  /-- Whether a line has been left. -/
  broken : Bool := false
  firstBreak : List Char := []
  moreBreaks : List Char := []
  deriving Repr

/-- The characters that a spacing contributes. -/
def Spacing.text (s : Spacing) : List Char :=
  if s.broken then foldBreaks s.firstBreak s.moreBreaks else s.pads

/-- Reads the spaces, tabs and line breaks that come next. In a plain scalar a tab may not stand
where the indentation must be. The fuel is more than the characters left. -/
def readSpacing (tabLimit : Nat) : Nat → Cursor → Spacing → Option (Cursor × Spacing)
  | 0, _, _ => none
  | fuel + 1, cur, s =>
    match cur.rest with
    | [] => some (cur, s)
    | c :: _ =>
      if isPad c then
        if s.broken && c == '\t' && cur.column < tabLimit then none
        else
          let s := if s.broken then s else { s with pads := s.pads ++ [c] }
          readSpacing tabLimit fuel cur.step s
      else if isBreak c then
        let s :=
          if s.broken then { s with moreBreaks := s.moreBreaks ++ cur.breakText }
          else { s with pads := [], broken := true, firstBreak := cur.breakText }
        readSpacing tabLimit fuel cur.stepLine s
      else some (cur, s)

/-! ## Plain scalars -/

/-- Whether a character separates the parts of flow collections. -/
def isFlowIndicator (c : Char) : Bool :=
  c == ',' || c == '[' || c == ']' || c == '\x7b' || c == '\x7d'

/-- How many of the next characters belong to a plain scalar before a space or an indicator. A colon
in a flow collection cannot be followed by another indicator. -/
def plainSpan (inFlow : Bool) : List Char → Option Nat
  | [] => some 0
  | c :: rest =>
    if isPad c || isBreak c then some 0
    else if inFlow && c == ':' && rest.head?.any fun d => isFlowIndicator d || d == '?' then none
    else if (c == ':' && atGap rest) || (inFlow && isFlowIndicator c) then some 0
    else (plainSpan inFlow rest).map (· + 1)

/-- Reads a plain scalar that is indented more than `indent`. The text so far is `read`, the spacing
before the next part `s`; whether the scalar ended after a line break is part of the answer. -/
def readPlainFrom (inFlow : Bool) (indent : Nat) :
    Nat → Cursor → List Char → Spacing → Option (Cursor × List Char × Bool)
  | 0, _, _, _ => none
  | fuel + 1, cur, read, s =>
    if cur.atDocumentMarker || cur.rest.head? == some '#' then some (cur, read, s.broken)
    else
      match plainSpan inFlow cur.rest with
      | none => none
      | some n =>
        let (read, s) :=
          if n = 0 then (read, s) else (read ++ s.text ++ cur.rest.take n, ({} : Spacing))
        let cur := cur.steps n
        match cur.rest with
        | [] => some (cur, read, s.broken)
        | c :: _ =>
          if isPad c || isBreak c then
            match readSpacing indent (cur.rest.length + 1) cur s with
            | none => none
            | some (cur, s) =>
              if !inFlow && cur.column < indent then some (cur, read, s.broken)
              else readPlainFrom inFlow indent fuel cur read s
          else some (cur, read, s.broken)

/-- Reads a plain scalar. -/
def readPlain (inFlow : Bool) (indent : Nat) (cur : Cursor) : Option (Cursor × List Char × Bool) :=
  readPlainFrom inFlow indent (cur.rest.length + 1) cur [] {}

/-! ## Quoted scalars -/

/-- What an escape letter means: a character, or the number of digits of a code point. -/
def escapeMeaning? : Char → Option (Char ⊕ Nat)
  | '0' => some (.inl '\x00')
  | 'a' => some (.inl '\x07')
  | 'b' => some (.inl '\x08')
  | 't' => some (.inl '\t')
  | '\t' => some (.inl '\t')
  | 'n' => some (.inl '\n')
  | 'v' => some (.inl '\x0b')
  | 'f' => some (.inl '\x0c')
  | 'r' => some (.inl '\r')
  | 'e' => some (.inl '\x1b')
  | ' ' => some (.inl ' ')
  | '\x22' => some (.inl '\x22')
  | '/' => some (.inl '/')
  | '\\' => some (.inl '\\')
  | 'N' => some (.inl '\u0085')
  | '_' => some (.inl '\u00a0')
  | 'L' => some (.inl '\u2028')
  | 'P' => some (.inl '\u2029')
  | 'x' => some (.inr 2)
  | 'u' => some (.inr 4)
  | 'U' => some (.inr 8)
  | _ => none

/-- The character that an escape names, and the number of characters of the escape after the
backslash. -/
def readEscape : List Char → Option (Char × Nat)
  | [] => none
  | c :: rest =>
    match escapeMeaning? c with
    | none => none
    | some (.inl c) => some (c, 1)
    | some (.inr width) => do
      let digits := rest.take width
      let value ← Text.numeral? 16 digits
      if digits.length = width ∧ value.isValidChar then
        return (Char.ofNat value, width + 1)
      else none

/-- Reads the characters of a quoted scalar up to a space, a line break or the closing quote. An
escaped line break also ends them, and is told. -/
def readQuotedPart (single : Bool) :
    Nat → Cursor → List Char → Option (Cursor × List Char × Bool)
  | 0, _, _ => none
  | fuel + 1, cur, read =>
    match cur.rest with
    | [] => some (cur, read, false)
    | c :: rest =>
      if isPad c || isBreak c then some (cur, read, false)
      else if single then
        if c = '\x27' then
          if rest.head? = some '\x27' then
            readQuotedPart single fuel (cur.steps 2) (read ++ ['\x27'])
          else some (cur, read, false)
        else readQuotedPart single fuel cur.step (read ++ [c])
      else if c = '\x22' then some (cur, read, false)
      else if c = '\\' then
        if rest.head?.any isBreak then some (cur.step.stepLine, read, true)
        else
          match readEscape rest with
          | none => none
          | some (c, n) => readQuotedPart single fuel (cur.steps (n + 1)) (read ++ [c])
      else readQuotedPart single fuel cur.step (read ++ [c])

/-- Reads the rest of a quoted scalar, and its closing quote. -/
def readQuotedFrom (single : Bool) : Nat → Cursor → List Char → Option (Cursor × List Char)
  | 0, _, _ => none
  | fuel + 1, cur, read =>
    if cur.atDocumentMarker || cur.rest.isEmpty then none
    else
      match readQuotedPart single (cur.rest.length + 1) cur read with
      | none => none
      | some (cur, read, escaped) =>
        if cur.rest.head? = some (if single then '\x27' else '\x22') then some (cur.step, read)
        else
          match readSpacing 0 (cur.rest.length + 1) cur { broken := escaped } with
          | none => none
          | some (cur, s) => readQuotedFrom single fuel cur (read ++ s.text)

/-- Reads a scalar between single quotes, the cursor at the opening one. -/
def readSingle (cur : Cursor) : Option (Cursor × List Char) :=
  readQuotedFrom true (cur.rest.length + 1) cur.step []

/-- Reads a scalar between double quotes, the cursor at the opening one. -/
def readDouble (cur : Cursor) : Option (Cursor × List Char) :=
  readQuotedFrom false (cur.rest.length + 1) cur.step []

/-! ## Block scalars -/

/-- What happens to the line breaks at the end of a block scalar. -/
inductive Chomping where
  | strip
  | clip
  | keep
  deriving DecidableEq, Repr

/-- The chomping that an indicator asks for. -/
def Chomping.ofIndicator? : Char → Option Chomping
  | '+' => some keep
  | '-' => some strip
  | _ => none

/-- The indentation that an indicator asks for; a zero is none. -/
def indentIndicator? (c : Char) : Option Nat :=
  if '1' ≤ c ∧ c ≤ '9' then some (c.toNat - 48) else none

/-- Reads the indicators of a block scalar, in either order. -/
def readHeader (cur : Cursor) : Option (Cursor × Chomping × Option Nat) :=
  match cur.rest with
  | [] => some (cur, .clip, none)
  | c :: rest =>
    match Chomping.ofIndicator? c with
    | some chomping =>
      match rest with
      | d :: _ =>
        if d = '0' then none
        else
          match indentIndicator? d with
          | some n => some (cur.steps 2, chomping, some n)
          | none => some (cur.step, chomping, none)
      | [] => some (cur.step, chomping, none)
    | none =>
      if c = '0' then none
      else
        match indentIndicator? c with
        | none => some (cur, .clip, none)
        | some n =>
          match rest with
          | d :: _ =>
            match Chomping.ofIndicator? d with
            | some chomping => some (cur.steps 2, chomping, some n)
            | none => some (cur.step, .clip, some n)
          | [] => some (cur.step, .clip, some n)

/-- Reads the empty lines that come next and the indentation after them. Without a known
indentation (`0`) all spaces are read and the deepest line counts. -/
def readBlankLines (indent : Nat) :
    Nat → Nat → Cursor → List Char → Option (Cursor × List Char × Nat)
  | 0, _, _, _ => none
  | fuel + 1, deepest, cur, breaks =>
    let spaces := (cur.rest.takeWhile (· == ' ')).length
    let cur := cur.steps (if indent = 0 then spaces else min spaces (indent - cur.column))
    let deepest := max deepest cur.column
    match cur.rest with
    | [] => some (cur, breaks, deepest)
    | c :: _ =>
      if c = '\t' ∧ (indent = 0 ∨ cur.column < indent) then none
      else if isBreak c then
        readBlankLines indent fuel deepest cur.stepLine (breaks ++ cur.breakText)
      else some (cur, breaks, deepest)

/-- Reads the lines of a block scalar. `first` is the break after the last line read, `more` the
empty lines after it, `padded` whether that line began with a space or tab. -/
def readBlockLines (folded : Bool) (indent : Nat) :
    Nat → Cursor → (read first more : List Char) → (padded : Bool) →
      Option (Cursor × List Char × List Char × List Char)
  | 0, _, _, _, _, _ => none
  | fuel + 1, cur, read, first, more, padded =>
    match cur.rest with
    | [] => some (cur, read, first, more)
    | c :: _ =>
      if cur.column ≠ indent then some (cur, read, first, more)
      else
        let joined :=
          if folded && first.head? == some '\n' && !padded && !isPad c then
            if more.isEmpty then [' '] else more
          else first ++ more
        let line := cur.rest.takeWhile (!isBreak ·)
        let atEnd := cur.steps line.length
        let next := if atEnd.rest.isEmpty then atEnd else atEnd.stepLine
        match readBlankLines indent (next.rest.length + 1) 0 next [] with
        | none => none
        | some (after, breaks, _) =>
          readBlockLines folded indent fuel after (read ++ joined ++ line) atEnd.breakText breaks
            (isPad c)

/-- Reads a block scalar inside of a block indented by `parent` (`none` at the top), the cursor at
its `|` or `>`. -/
def readBlock (folded : Bool) (parent : Option Nat) (cur : Cursor) :
    Option (Cursor × List Char) := do
  let (cur, chomping, indicator) ← readHeader cur.step
  let cur := cur.skipWhile isPad
  let cur := if cur.rest.head? = some '#' then cur.skipToLineEnd else cur
  if !atLineEnd cur.rest then none
  let cur := if cur.rest.isEmpty then cur else cur.stepLine
  let least := (parent.map (· + 1)).getD 0
  let known := (indicator.map (parent.getD 0 + ·)).getD 0
  let (cur, more, deepest) ← readBlankLines known (cur.rest.length + 1) 0 cur []
  let indent := if known = 0 then max (max deepest least) 1 else known
  let (cur, read, first, more) ←
    readBlockLines folded indent (cur.rest.length + 1) cur [] [] more false
  match chomping with
  | .strip => return (cur, read)
  | .clip => return (cur, read ++ first)
  | .keep => return (cur, read ++ first ++ more)

end HeaderFacts.Yaml

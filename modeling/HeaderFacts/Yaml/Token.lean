import HeaderFacts.Yaml.Scalar

/-!
# YAML tokens

The tokens of YAML text, those that indentation stands for included. A mapping key is recognised
only when the colon after it is reached: a place where a key may have begun is kept in mind, and the
token that announces the key is then put in there.

Main definitions:

* `Token` — a token.
* `Lexer` — the text still to be read and what has to be kept in mind.
* `tokens?` — the tokens of a text.
-/

namespace HeaderFacts.Yaml

/-- A token. The end of the list of tokens is the end of the text. -/
inductive Token where
  | versionDirective (major minor : Nat)
  | tagDirective (handle expansion : List Char)
  | documentStart
  | documentEnd
  | blockSequenceStart
  | blockMappingStart
  | blockEnd
  | flowSequenceStart
  | flowSequenceEnd
  | flowMappingStart
  | flowMappingEnd
  | blockEntry
  | flowEntry
  | key
  | value
  | alias (name : List Char)
  | anchor (name : List Char)
  | tag (handle suffix : List Char)
  | scalar (style : ScalarStyle) (text : List Char)
  deriving DecidableEq, Repr

/-- A place where a mapping key may have begun. -/
structure KeyPlace where
  /-- Without a colon after it the text is malformed. -/
  required : Bool
  /-- The number of tokens before it. -/
  position : Nat
  line : Nat
  column : Nat
  index : Nat
  deriving Repr

/-- The text still to be read and what has to be kept in mind. -/
structure Lexer where
  cur : Cursor
  tokens : Array Token := #[]
  /-- The column of the current block collection. -/
  indent : Option Nat := none
  /-- The columns of the collections around it. -/
  outer : List (Option Nat) := []
  /-- Whether a key may begin here. -/
  keyAllowed : Bool := true
  /-- Where a key may have begun, for each flow collection around and for the block outside. -/
  keys : List (Option KeyPlace) := [none]
  deriving Repr

namespace Lexer

/-- Whether the place is inside of a flow collection. -/
def inFlow (l : Lexer) : Bool :=
  l.keys.length > 1

/-- Adds a token. -/
def push (l : Lexer) (t : Token) : Lexer :=
  { l with tokens := l.tokens.push t }

/-! ## Keys -/

/-- Gives up the places for keys that lie too far back: on another line, or more than 1024
characters. A required key must not be given up. -/
def dropStaleKeys (l : Lexer) : Option Lexer := do
  let keys ← l.keys.mapM fun place? =>
    match place? with
    | none => some none
    | some place =>
      if place.line < l.cur.line ∨ place.index + 1024 < l.cur.index then
        if place.required then none else some none
      else some (some place)
  return { l with keys }

/-- Gives up the place for a key of the current collection. -/
def dropKey (l : Lexer) : Option Lexer :=
  match l.keys with
  | some place :: keys => if place.required then none else some { l with keys := none :: keys }
  | _ => some l

/-- Keeps the place in mind, if a key may begin here. -/
def saveKey (l : Lexer) : Option Lexer := do
  if !l.keyAllowed then return l
  let place : KeyPlace :=
    { required := !l.inFlow && l.indent == some l.cur.column
      position := l.tokens.size
      line := l.cur.line
      column := l.cur.column
      index := l.cur.index }
  let l ← l.dropKey
  return { l with keys := some place :: l.keys.drop 1 }

/-! ## Indentation -/

/-- Begins a block collection at a column that is deeper than the current one; its token goes to the
given position. -/
def roll (l : Lexer) (column position : Nat) (start : Token) : Lexer :=
  if l.inFlow || l.indent.any (column ≤ ·) then l
  else
    { l with
      indent := some column
      outer := l.indent :: l.outer
      tokens := l.tokens.insertIdxIfInBounds position start }

/-- Ends the block collections that are deeper than a column. -/
def unrollFrom (limit : Option Nat) : List (Option Nat) → Lexer → Lexer
  | [], l => l
  | next :: outer, l =>
    if l.indent.any fun i => limit.all (· < i) then
      unrollFrom limit outer { l.push .blockEnd with indent := next, outer }
    else l

/-- Ends the block collections that are deeper than a column; `none` ends them all. -/
def unroll (l : Lexer) (limit : Option Nat) : Lexer :=
  if l.inFlow then l else unrollFrom limit l.outer l

/-! ## Between tokens -/

/-- Passes over blanks, comments and line breaks. Tabs may not stand where a key may begin. The fuel
is more than the characters left. -/
def skipToToken : Nat → Lexer → Lexer
  | 0, l => l
  | fuel + 1, l =>
    let tabs := l.inFlow || !l.keyAllowed
    let bom := l.cur.column == 0 && l.cur.rest.head? == some '\uFEFF'
    let cur := if bom then l.cur.step else l.cur
    let cur := cur.skipWhile fun c => c == ' ' || (tabs && c == '\t')
    let cur := if cur.rest.head? == some '#' then cur.skipToLineEnd else cur
    if cur.rest.head?.any isBreak then
      skipToToken fuel { l with cur := cur.stepLine, keyAllowed := !l.inFlow || l.keyAllowed }
    else { l with cur }

/-! ## Directives -/

/-- Whether a character may stand in a name. -/
def isNameChar (c : Char) : Bool :=
  c.isAlphanum || c == '_' || c == '-'

/-- Whether a character may stand in a tag. -/
def isTagChar (c : Char) : Bool :=
  isNameChar c || ";/?:@&=+$.!~*\x27()%".toList.contains c

/-- Passes over blanks and a comment, which must reach the end of the line, and over its break. -/
def finishLine (cur : Cursor) : Option Cursor :=
  let cur := cur.skipWhile isPad
  let cur := if cur.rest.head? == some '#' then cur.skipToLineEnd else cur
  match cur.rest with
  | [] => some cur
  | c :: _ => if isBreak c then some cur.stepLine else none

/-- Reads a number of at most nine digits. -/
def readNumber (cur : Cursor) : Option (Nat × Cursor) :=
  let digits := cur.rest.takeWhile Char.isDigit
  if digits.isEmpty || digits.length > 9 then none
  else some (Text.numeral 10 digits, cur.steps digits.length)

/-- Reads a version such as `1.2`. -/
def readVersion (cur : Cursor) : Option (Token × Cursor) := do
  let (major, cur) ← readNumber (cur.skipWhile isPad)
  match cur.rest with
  | '.' :: _ =>
    let (minor, cur) ← readNumber cur.step
    return (.versionDirective major minor, cur)
  | _ => none

/-- Reads a tag handle: an exclamation mark, perhaps a name and another one. -/
def readHandle (inDirective : Bool) (cur : Cursor) : Option (List Char × Cursor) :=
  match cur.rest with
  | '!' :: rest =>
    let name := rest.takeWhile isNameChar
    let after := cur.steps (name.length + 1)
    match after.rest with
    | '!' :: _ => some ('!' :: name ++ ['!'], after.step)
    | _ => if inDirective && !name.isEmpty then none else some ('!' :: name, after)
  | _ => none

/-- Replaces the escapes of a tag, which give the bytes of its characters; ASCII only. -/
def decodeTag : List Char → Option (List Char)
  | [] => some []
  | '%' :: a :: b :: rest => do
    let value ← Text.numeral? 16 [a, b]
    if value < 0x80 then return Char.ofNat value :: (← decodeTag rest) else none
  | c :: rest => if c = '%' then none else (decodeTag rest).map (c :: ·)

/-- Reads the handle of a tag directive and what it expands to. -/
def readTagDirective (cur : Cursor) : Option (Token × Cursor) := do
  let (handle, cur) ← readHandle true (cur.skipWhile isPad)
  if !(cur.rest.head?.any isPad) then none
  let cur := cur.skipWhile isPad
  let expansion := cur.rest.takeWhile fun c => isTagChar c || c == ',' || c == '[' || c == ']'
  if expansion.isEmpty then none
  let cur := cur.steps expansion.length
  if !atGap cur.rest then none
  return (.tagDirective handle (← decodeTag expansion), cur)

/-- Reads a directive, the cursor at its percent sign. -/
def readDirective (cur : Cursor) : Option (Token × Cursor) := do
  let cur := cur.step
  let name := cur.rest.takeWhile isNameChar
  let cur := cur.steps name.length
  if !atGap cur.rest then none
  let (token, cur) ←
    match String.ofList name with
    | "YAML" => readVersion cur
    | "TAG" => readTagDirective cur
    | _ => none
  return (token, ← finishLine cur)

/-! ## Anchors and tags -/

/-- Reads the name after `&` or `*`. -/
def readAnchorName (cur : Cursor) : Option (List Char × Cursor) :=
  let name := cur.step.rest.takeWhile isNameChar
  let after := cur.step.steps name.length
  if name.isEmpty then none
  else if atGap after.rest || after.rest.head?.any "?:,]\x7d%@\x60".toList.contains then
    some (name, after)
  else none

/-- Reads a tag, the cursor at its exclamation mark. -/
def readTag (inFlow : Bool) (cur : Cursor) : Option (Token × Cursor) := do
  let (handle, suffix, cur) ←
    match cur.rest with
    | '!' :: '<' :: rest =>
      let uri := rest.takeWhile fun c => isTagChar c || c == ',' || c == '[' || c == ']'
      let after := cur.steps (uri.length + 2)
      if uri.isEmpty || after.rest.head? != some '>' then none
      else some (([] : List Char), uri, after.step)
    | _ => do
      let (handle, after) ← readHandle false cur
      let suffix := after.rest.takeWhile isTagChar
      let next := after.steps suffix.length
      if handle.length > 1 && handle.getLast? == some '!' then
        if suffix.isEmpty then none else some (handle, suffix, next)
      else if handle.length == 1 && suffix.isEmpty then some ([], ['!'], next)
      else some (['!'], handle.drop 1 ++ suffix, next)
  let suffix ← decodeTag suffix
  if atGap cur.rest || (inFlow && cur.rest.head? == some ',') then
    return (.tag handle suffix, cur)
  else none

/-! ## Tokens -/

/-- A token of one character that opens a flow collection. -/
def openFlow (l : Lexer) (t : Token) : Option Lexer := do
  let l ← l.saveKey
  return { l.push t with cur := l.cur.step, keyAllowed := true, keys := none :: l.keys }

/-- A token of one character that closes a flow collection. -/
def closeFlow (l : Lexer) (t : Token) : Option Lexer := do
  let l ← l.dropKey
  return { l.push t with
    cur := l.cur.step, keyAllowed := false, keys := if l.inFlow then l.keys.drop 1 else l.keys }

/-- A token that can be a key, read by `read`. -/
def keyToken (l : Lexer) (read : Cursor → Option (Token × Cursor)) : Option Lexer := do
  let l ← l.saveKey
  let (token, cur) ← read l.cur
  return { l.push token with cur, keyAllowed := false }

/-- The hyphen of an entry of a block sequence. -/
def blockEntry (l : Lexer) : Option Lexer := do
  if !l.inFlow && !l.keyAllowed then none
  let l ← (l.roll l.cur.column l.tokens.size .blockSequenceStart).dropKey
  return { l.push .blockEntry with cur := l.cur.step, keyAllowed := true }

/-- The question mark before a key. -/
def explicitKey (l : Lexer) : Option Lexer := do
  if !l.inFlow && !l.keyAllowed then none
  let l ← (l.roll l.cur.column l.tokens.size .blockMappingStart).dropKey
  return { l.push .key with cur := l.cur.step, keyAllowed := !l.inFlow }

/-- The colon before a value. What stands at the place kept in mind turns out to be the key. -/
def mappingValue (l : Lexer) : Option Lexer := do
  match l.keys with
  | some place :: keys =>
    let l := { l with
      tokens := l.tokens.insertIdxIfInBounds place.position .key
      keys := none :: keys
      keyAllowed := false }
    let l := l.roll place.column place.position .blockMappingStart
    return { l.push .value with cur := l.cur.step }
  | _ =>
    if !l.inFlow && !l.keyAllowed then none
    let l := l.roll l.cur.column l.tokens.size .blockMappingStart
    return { l.push .value with cur := l.cur.step, keyAllowed := !l.inFlow }

/-- A block scalar. -/
def blockScalar (l : Lexer) (folded : Bool) : Option Lexer := do
  let l ← l.dropKey
  let (cur, text) ← readBlock folded l.indent l.cur
  return { l.push (.scalar (if folded then .folded else .literal) text) with
    cur, keyAllowed := true }

/-- A plain scalar. -/
def plainScalar (l : Lexer) : Option Lexer := do
  let l ← l.saveKey
  let (cur, text, broken) ← readPlain l.inFlow ((l.indent.map (· + 1)).getD 0) l.cur
  return { l.push (.scalar .plain text) with cur, keyAllowed := broken }

/-- Whether a plain scalar can begin here. -/
def startsPlain (inFlow : Bool) : List Char → Bool
  | [] => false
  | c :: rest =>
    if c == '-' then !(rest.head?.any isPad)
    else if c == '?' || c == ':' then !inFlow && !atGap rest
    else !(isPad c || isBreak c || ",[]\x7b\x7d#&*!|>\x27\x22%@\x60".toList.contains c)

/-- Ends all block collections before a document marker or directive. -/
def endDocument (l : Lexer) : Option Lexer := do
  let l ← (l.unroll none).dropKey
  return { l with keyAllowed := false }

/-- Reads the next token; there must be more text. -/
def next (l : Lexer) (c : Char) (after : List Char) : Option Lexer := do
  if l.cur.column == 0 && c == '%' then
    let l ← l.endDocument
    let (token, cur) ← readDirective l.cur
    return { l.push token with cur }
  else if l.cur.atDocumentMarker then
    let l ← l.endDocument
    let token := if c == '-' then .documentStart else .documentEnd
    return { l.push token with cur := l.cur.steps 3 }
  else
    let flowOrGap := l.inFlow || atGap after
    match c with
    | '[' => l.openFlow .flowSequenceStart
    | '\x7b' => l.openFlow .flowMappingStart
    | ']' => l.closeFlow .flowSequenceEnd
    | '\x7d' => l.closeFlow .flowMappingEnd
    | ',' =>
      let l ← l.dropKey
      return { l.push .flowEntry with cur := l.cur.step, keyAllowed := true }
    | '*' => l.keyToken fun cur => (readAnchorName cur).map fun (name, cur) => (.alias name, cur)
    | '&' => l.keyToken fun cur => (readAnchorName cur).map fun (name, cur) => (.anchor name, cur)
    | '!' => l.keyToken (readTag l.inFlow)
    | '\x27' =>
      l.keyToken fun cur =>
        (readSingle cur).map fun (cur, text) => (.scalar .singleQuoted text, cur)
    | '\x22' =>
      l.keyToken fun cur =>
        (readDouble cur).map fun (cur, text) => (.scalar .doubleQuoted text, cur)
    | _ =>
      if c == '-' && atGap after then l.blockEntry
      else if c == '?' && flowOrGap then l.explicitKey
      else if c == ':' && flowOrGap then l.mappingValue
      else if c == '|' && !l.inFlow then l.blockScalar false
      else if c == '>' && !l.inFlow then l.blockScalar true
      else if startsPlain l.inFlow (c :: after) then l.plainScalar
      else none

/-- Reads all tokens. The fuel is more than the characters left. -/
def readAll : Nat → Lexer → Option (List Token)
  | 0, _ => none
  | fuel + 1, l =>
    match (skipToToken (l.cur.rest.length + 1) l).dropStaleKeys with
    | none => none
    | some l =>
      let l := l.unroll (some l.cur.column)
      match l.cur.rest with
      | [] => ((l.unroll none).dropKey).map fun l => l.tokens.toList
      | c :: after =>
        match l.next c after with
        | none => none
        | some l => readAll fuel l

end Lexer

/-- The tokens of a text. -/
def tokens? (text : List Char) : Option (List Token) :=
  let text :=
    match text with
    | '\uFEFF' :: rest => rest
    | _ => text
  if text.all isReadable then Lexer.readAll (text.length + 1) { cur := { rest := text } } else none

end HeaderFacts.Yaml

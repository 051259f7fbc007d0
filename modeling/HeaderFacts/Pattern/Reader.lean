import HeaderFacts.Pattern.Bracket

/-!
# Reading regular expressions

A pattern is alternatives of sequences of repeated pieces. Reading goes from left to right with the
flags in force; a group reads its inside and then restores the flags it began with. Groups capture
nothing here, but a group name may be given once only. A pattern nested too deeply, or one whose
repetitions would take too much room, is refused.

Main definitions:

* `Piece` — an expression and how deeply its notation is nested.
* `readAlternatives` — reads up to the end of the pattern or of the enclosing group.
* `parse?` — the expression of a whole pattern.
-/

namespace HeaderFacts.Pattern

/-- An expression and the depth of the nesting of its notation. -/
structure Piece where
  expr : Expr
  depth : Nat
  deriving Repr

/-- An element of a sequence: a piece, or a switch of flags, which cannot be repeated. -/
inductive Item where
  | piece (p : Piece)
  | switch
  deriving Repr

namespace Item

/-- What an element contributes to its sequence. -/
def toPiece : Item → Piece
  | piece p => p
  | switch => ⟨.empty, 0⟩

/-- A character, set or assertion. -/
def leaf (e : Expr) : Item := piece ⟨e, 0⟩

end Item

/-- The sequence of some elements. -/
def Piece.sequence : List Item → Piece
  | [] => ⟨.empty, 0⟩
  | [item] => item.toPiece
  | items =>
    let pieces := items.map Item.toPiece
    ⟨(pieces.map Piece.expr).foldr .seq .empty, 1 + (pieces.map Piece.depth).foldl max 0⟩

/-- The expression that matches what one of several matches. -/
def alternation : List Expr → Expr
  | [] => .empty
  | [e] => e
  | e :: rest => .alt e (alternation rest)

/-- The choice between some alternatives. -/
def Piece.choice : List Piece → Piece
  | [] => ⟨.empty, 0⟩
  | [p] => p
  | pieces => ⟨alternation (pieces.map Piece.expr), 1 + (pieces.map Piece.depth).foldl max 0⟩

/-! ## Characters -/

/-- The set of a literal character. -/
def literalSet (f : Flags) (c : Char) : CharSet :=
  if f.ignoreCase then .anyCase (.singleton c) else .singleton c

/-- The characters that a dot matches: all but those that end lines, unless flags say otherwise.
Without Unicode a dot would match parts of characters and is refused. -/
def dotSet? (f : Flags) : Option CharSet :=
  if !f.unicode then none
  else if f.dotNewline then some .everything
  else if f.crlf then some (.compl (.union (.singleton '\n') (.singleton '\r')))
  else some (.compl (.singleton '\n'))

/-- The expression of an escape outside of classes. -/
def Escape.toExpr (f : Flags) : Escape → Expr
  | .char c => .set (literalSet f c)
  | .set s => .set s
  | .look l => .look l

/-- Reads a character, an escape, a dot or an anchor. -/
def readLeaf (f : Flags) : List Char → Option (Expr × List Char)
  | [] => none
  | '\\' :: cs => (Escape.read? f cs).map fun (e, rest) => (e.toExpr f, rest)
  | '.' :: cs => (dotSet? f).map fun s => (.set s, cs)
  | '^' :: cs => some (.look (if f.multiLine then .lineStart f.crlf else .textStart), cs)
  | '$' :: cs => some (.look (if f.multiLine then .lineEnd f.crlf else .textEnd), cs)
  | c :: cs => some (.set (literalSet f c), cs)

/-! ## Repetitions -/

/-- Reads a decimal number, with blanks allowed around it; empty digits are no number. -/
def readDecimal (f : Flags) (cs : List Char) : Option Nat × List Char :=
  let (digits, rest) := f.run Char.isDigit false (cs.dropWhile Text.isBlank)
  let value := Text.numeral 10 digits
  (if digits.isEmpty || value > 0xFFFFFFFF then none else some value, rest.dropWhile Text.isBlank)

/-- Passes over the question mark that makes a repetition lazy. -/
def dropLazy : List Char → List Char
  | '?' :: cs => cs
  | cs => cs

/-- Reads the bounds of a counted repetition, its opening brace already read. -/
def readCount (f : Flags) (cs : List Char) : Option ((Nat × Option Nat) × List Char) :=
  let (min?, cs) := readDecimal f (f.skip cs)
  match cs with
  | '\x7d' :: rest => do
    let min ← min?
    return ((min, some min), dropLazy (f.skip rest))
  | ',' :: rest =>
    match f.skip rest with
    | '\x7d' :: rest => do
      let min ← min?
      return ((min, none), dropLazy (f.skip rest))
    | rest =>
      let (max?, rest) := readDecimal f rest
      match rest with
      | '\x7d' :: rest => do
        let min ← min?
        let max ← max?
        if min ≤ max then return ((min, some max), dropLazy (f.skip rest)) else none
      | _ => none
  | _ => none

/-- Repeats the last of the elements, which are in reverse; there must be one that can be. -/
def repeatLast (bounds : Nat × Option Nat) : List Item → Option (List Item)
  | .piece p :: items => some (.piece ⟨.repeated p.expr bounds.1 bounds.2, 1 + p.depth⟩ :: items)
  | _ => none

/-! ## Groups -/

/-- How a group begins. -/
inductive GroupStart where
  /-- A group that only switches flags. -/
  | switch (flags : Flags)
  /-- A group with an inside, read under the flags; its name, if it has one. -/
  | opened (flags : Flags) (name : Option (List Char))

/-- Whether a character may stand in a group name. -/
def isNameChar (first : Bool) (c : Char) : Bool :=
  if first then c == '_' || Unicode.isAlphabetic c
  else c == '_' || c == '.' || c == '[' || c == ']' || Unicode.isAlphanumeric c

/-- Reads the name of a group up to its `>`. -/
def readGroupName (f : Flags) (cs : List Char) : Option (GroupStart × List Char) :=
  match cs.takeWhile (· != '>'), cs.dropWhile (· != '>') with
  | c :: name, _ :: rest =>
    if isNameChar true c && name.all (isNameChar false) then
      some (.opened f (some (c :: name)), rest)
    else none
  | _, _ => none

/-- Reads the start of a group, its opening parenthesis already read. Assertions about the text
around a match have no notation. -/
def readGroupStart (f : Flags) (cs : List Char) : Option (GroupStart × List Char) :=
  match f.skip cs with
  | '?' :: 'P' :: '<' :: rest => readGroupName f rest
  | '?' :: '<' :: '=' :: _ => none
  | '?' :: '<' :: '!' :: _ => none
  | '?' :: '<' :: rest => readGroupName f rest
  | '?' :: rest =>
    match Flags.readLetters [] false false rest with
    | none => none
    | some (switches, final, rest) =>
      if final = ':' then some (.opened (f.switchAll switches) none, rest)
      else if switches.isEmpty then none
      else some (.switch (f.switchAll switches), rest)
  | cs => some (.opened f none, cs)

/-! ## Patterns -/

/-- Reads alternatives up to the end of the pattern or a parenthesis that closes the enclosing
group, which is left. `names` are the group names given so far; `done` and `items` are the finished
alternatives and the elements of the current one, in reverse. The fuel is more than the characters
left. -/
def readAlternatives :
    Nat → Flags → List (List Char) → List Piece → List Item → List Char →
      Option (Piece × List (List Char) × List Char)
  | 0, _, _, _, _, _ => none
  | fuel + 1, f, names, done, items, cs =>
    let current := Piece.sequence items.reverse
    match f.skip cs with
    | [] => some (Piece.choice (current :: done).reverse, names, [])
    | ')' :: rest => some (Piece.choice (current :: done).reverse, names, ')' :: rest)
    | '|' :: rest => readAlternatives fuel f names (current :: done) [] rest
    | '(' :: rest => do
      let (start, rest) ← readGroupStart f rest
      match start with
      | .switch f => readAlternatives fuel f names done (.switch :: items) rest
      | .opened inner name =>
        if name.any names.contains then none
        else
          let (inside, names, rest) ← readAlternatives fuel inner (name.toList ++ names) [] [] rest
          match rest with
          | ')' :: rest =>
            let group := Item.piece ⟨inside.expr, 1 + inside.depth⟩
            readAlternatives fuel f names done (group :: items) rest
          | _ => none
    | '[' :: rest => do
      let (b, rest) ← Bracket.read? f rest
      readAlternatives fuel f names done (.piece ⟨.set b.set, b.depth⟩ :: items) rest
    | '?' :: rest => do
      readAlternatives fuel f names done (← repeatLast (0, some 1) items) (dropLazy rest)
    | '*' :: rest => do
      readAlternatives fuel f names done (← repeatLast (0, none) items) (dropLazy rest)
    | '+' :: rest => do
      readAlternatives fuel f names done (← repeatLast (1, none) items) (dropLazy rest)
    | '\x7b' :: rest => do
      let (bounds, rest) ← readCount f rest
      readAlternatives fuel f names done (← repeatLast bounds items) rest
    | cs => do
      let (e, rest) ← readLeaf f cs
      readAlternatives fuel f names done (.leaf e :: items) rest

/-- The deepest nesting that a pattern may have. -/
def maxDepth : Nat := 250

/-- The bytes that a compiled pattern may take. -/
def maxCost : Nat := 10 * 1024 * 1024

/-- The expression of a pattern, or nothing if it is none. -/
def parse? (cs : List Char) : Option Expr :=
  match readAlternatives (cs.length + 1) {} [] [] [] cs with
  | some (p, _, []) => if p.depth ≤ maxDepth ∧ p.expr.cost ≤ maxCost then some p.expr else none
  | _ => none

end HeaderFacts.Pattern

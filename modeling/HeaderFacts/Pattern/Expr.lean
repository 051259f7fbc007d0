import HeaderFacts.Pattern.CharSet

/-!
# Regular expressions and their matches

An expression is matched against all starting places at once: a mark sits on each gap between two
characters that a partial match can have reached, and an expression moves the marks. A repetition
moves them until nothing changes, so a match takes time polynomial in the text whatever the
expression.

Main definitions:

* `Expr` — the syntax tree of a regular expression.
* `Look.holds` — whether an assertion holds between two characters.
* `Expr.reach` — the gaps that matches starting at marked gaps can end at.
* `Expr.occursIn` — whether an expression matches somewhere in a text.
-/

namespace HeaderFacts.Pattern

/-! ## Assertions -/

/-- An assertion about the gap between two characters. -/
inductive Look where
  | textStart
  | textEnd
  /-- The start of a line; lines end with `\n`, and with `\r\n` and `\r` too if `crlf`. -/
  | lineStart (crlf : Bool)
  | lineEnd (crlf : Bool)
  /-- A place where a word starts or ends; words are ASCII words if `ascii`. -/
  | wordEdge (ascii : Bool)
  | noWordEdge (ascii : Bool)
  | wordStart (ascii : Bool)
  | wordEnd (ascii : Bool)
  /-- No word character before the gap. -/
  | wordStartHalf (ascii : Bool)
  /-- No word character after the gap. -/
  | wordEndHalf (ascii : Bool)
  deriving DecidableEq, Repr

/-- Whether there is a character and it belongs to a word. -/
def isWordAt (ascii : Bool) : Option Char → Bool
  | none => false
  | some c => if ascii then CharSet.asciiWord.contains c else Unicode.isWord c

/-- Whether an assertion holds in the gap between `before` and `after`. -/
def Look.holds (before after : Option Char) : Look → Bool
  | textStart => before.isNone
  | textEnd => after.isNone
  | lineStart false => before.isNone || before == some '\n'
  | lineStart true =>
    before.isNone || before == some '\n' || (before == some '\r' && after != some '\n')
  | lineEnd false => after.isNone || after == some '\n'
  | lineEnd true =>
    after.isNone || after == some '\r' || (after == some '\n' && before != some '\r')
  | wordEdge ascii => isWordAt ascii before != isWordAt ascii after
  | noWordEdge ascii => isWordAt ascii before == isWordAt ascii after
  | wordStart ascii => !isWordAt ascii before && isWordAt ascii after
  | wordEnd ascii => isWordAt ascii before && !isWordAt ascii after
  | wordStartHalf ascii => !isWordAt ascii before
  | wordEndHalf ascii => !isWordAt ascii after

/-! ## Expressions -/

/-- A regular expression. Groups and greediness do not matter to whether a text matches, so they
leave no trace here. -/
inductive Expr where
  | empty
  | set (s : CharSet)
  | look (l : Look)
  | seq (a b : Expr)
  | alt (a b : Expr)
  /-- At least `min` and at most `max?` times; without `max?`, any number of times from `min` on. -/
  | repeated (a : Expr) (min : Nat) (max? : Option Nat)
  deriving DecidableEq, Repr

/-! ## Marks -/

/-- One mark for each gap of a text, the ones before the first and after the last character
included. -/
abbrev Marks := List Bool

/-- The marks of either of two sets. -/
def Marks.join (a b : Marks) : Marks :=
  List.zipWith (· || ·) a b

/-- The character before and the character after each gap of a text. -/
def gaps (before : Option Char) : List Char → List (Option Char × Option Char)
  | [] => [(before, none)]
  | c :: text => (before, some c) :: gaps (some c) text

/-- Moves each mark over the next character, if that is in the set. -/
def Marks.advance (s : CharSet) (text : List Char) (marks : Marks) : Marks :=
  false :: List.zipWith (fun marked c => marked && s.contains c) marks text

/-- Keeps the marks of the gaps at which an assertion holds. -/
def Marks.filterLook (l : Look) (text : List Char) (marks : Marks) : Marks :=
  List.zipWith (fun marked (gap : Option Char × Option Char) => marked && l.holds gap.1 gap.2)
    marks (gaps none text)

/-- Takes `n` steps; stops when a step changes nothing. -/
def Marks.iterate (step : Marks → Marks) : Nat → Marks → Marks
  | 0, marks => marks
  | n + 1, marks =>
    let next := step marks
    if next = marks then marks else iterate step n next

/-- All marks that at most `n` steps lead to; stops when a step adds nothing. -/
def Marks.closure (step : Marks → Marks) : Nat → Marks → Marks
  | 0, marks => marks
  | n + 1, marks =>
    let next := marks.join (step marks)
    if next = marks then marks else closure step n next

/-! ## Matching -/

namespace Expr

/-- The gaps at which a match can end that starts at a marked gap. -/
def reach (text : List Char) : Expr → Marks → Marks
  | empty, marks => marks
  | set s, marks => marks.advance s text
  | look l, marks => marks.filterLook l text
  | seq a b, marks => b.reach text (a.reach text marks)
  | alt a b, marks => (a.reach text marks).join (b.reach text marks)
  | repeated a min none, marks =>
    Marks.closure (a.reach text) (text.length + 1) (Marks.iterate (a.reach text) min marks)
  | repeated a min (some max), marks =>
    Marks.closure (a.reach text) (max - min) (Marks.iterate (a.reach text) min marks)

/-- Whether an expression matches a part of a text. -/
def occursIn (e : Expr) (text : List Char) : Bool :=
  (e.reach text (List.replicate (text.length + 1) true)).any id

/-- Whether an expression consists of assertions, so that a match of it covers no character. -/
def isWidthless : Expr → Bool
  | empty => true
  | set _ => false
  | look _ => true
  | seq a b => a.isWidthless && b.isWidthless
  | alt a b => a.isWidthless && b.isWidthless
  | repeated a _ max? => a.isWidthless || max? == some 0

/-- Bytes that the states of a compiled expression take; a counted repetition takes the room of as
many copies, unless it repeats assertions, of which one copy says as much. -/
def cost : Expr → Nat
  | empty => 32
  | set s => s.cost
  | look _ => 32
  | seq a b => a.cost + b.cost
  | alt a b => a.cost + b.cost + 32
  | repeated a min none => if a.isWidthless then a.cost + 32 else a.cost * max min 1 + 32
  | repeated a _ (some m) => if a.isWidthless then a.cost + 32 else a.cost * m + 32 * m

end Expr

end HeaderFacts.Pattern

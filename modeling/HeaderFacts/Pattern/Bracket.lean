import HeaderFacts.Pattern.Escape

/-!
# Bracketed classes

A class between brackets lists characters, ranges, class escapes and further classes, and combines
such lists by `&&`, `--` and `~~`, which bind alike and to the left. A hyphen or closing bracket
stands for itself where it can mean nothing else.

Main definitions:

* `Bracket` — a set and how deeply its notation is nested.
* `Bracket.read?` — reads a class, the opening bracket already read.
-/

namespace HeaderFacts.Pattern

/-- A set as a class writes it, and the depth of the nesting. -/
structure Bracket where
  set : CharSet
  depth : Nat
  deriving Repr

/-- How two lists of a class are combined. -/
inductive SetOp where
  | inter
  | diff
  | symmDiff
  deriving DecidableEq, Repr

namespace Bracket

/-- A character, range or class escape. -/
def leaf (s : CharSet) : Bracket := ⟨s, 0⟩

/-- The union of the items of a list. -/
def ofItems : List Bracket → Bracket
  | [] => leaf .nothing
  | [item] => item
  | items => ⟨.unions (items.map set), 1 + (items.map depth).foldl max 0⟩

/-- A set closed under change of case, if case is ignored. -/
def ignoringCase (f : Flags) (s : CharSet) : CharSet :=
  if f.ignoreCase then .anyCase s else s

/-- Combines what precedes an operator with the list that follows it. -/
def combine (f : Flags) : Option (SetOp × Bracket) → Bracket → Bracket
  | none, b => b
  | some (op, a), b =>
    let left := ignoringCase f a.set
    let right := ignoringCase f b.set
    let set :=
      match op with
      | .inter => CharSet.inter left right
      | .diff => CharSet.diff left right
      | .symmDiff => CharSet.symmDiff left right
    ⟨set, 1 + max a.depth b.depth⟩

/-- The class whose inside is given. Without Unicode a complement is refused. -/
def close? (f : Flags) (negated : Bool) (inside : Bracket) : Option Bracket :=
  let s := ignoringCase f inside.set
  if negated then
    if f.unicode then some ⟨.compl s, 1 + inside.depth⟩ else none
  else some ⟨s, 1 + inside.depth⟩

/-! ## Parts of a class -/

/-- Reads one character or escape of a class. -/
def readAtom (f : Flags) : List Char → Option (Escape × List Char)
  | [] => none
  | '\\' :: cs => Escape.read? f cs
  | c :: cs => some (.char c, cs)

/-- The set of an atom that stands by itself; an assertion is none. -/
def ofAtom? : Escape → Option Bracket
  | .char c => some (leaf (.singleton c))
  | .set s => some (leaf s)
  | .look _ => none

/-- Reads a range, or an atom that begins none. -/
def readRange (f : Flags) (cs : List Char) : Option (Bracket × List Char) := do
  let (first, cs) ← readAtom f cs
  match f.skip cs with
  | [] => none
  | '-' :: after =>
    if f.peek after = some ']' ∨ f.peek after = some '-' then
      return (← ofAtom? first, '-' :: after)
    else
      let (last, cs) ← readAtom f (f.skip after)
      match first, last with
      | .char lo, .char hi => if lo ≤ hi then return (leaf (.range lo hi), cs) else none
      | _, _ => none
  | cs => return (← ofAtom? first, cs)

/-- Reads an ASCII class such as `[:alpha:]`, its opening bracket already read. -/
def readAscii (f : Flags) : List Char → Option (Bracket × List Char)
  | ':' :: cs =>
    let (negated, cs) :=
      match cs with
      | '^' :: rest => (true, rest)
      | _ => (false, cs)
    match cs.dropWhile (· != ':') with
    | ':' :: ']' :: rest =>
      (CharSet.ofAsciiName? (cs.takeWhile (· != ':'))).map fun s =>
        let s := ignoringCase f s
        (leaf (if negated then .compl s else s), rest)
    | _ => none
  | _ => none

/-- Reads what may stand only at the start of a class: `^`, then hyphens or a closing bracket for
themselves. -/
def readStart (f : Flags) (cs : List Char) : Option (Bool × List Bracket × List Char) :=
  let (negated, cs) :=
    match f.skip cs with
    | '^' :: rest => (true, f.skip rest)
    | cs => (false, cs)
  let (hyphens, cs) := f.run (· == '-') false cs
  match hyphens, cs with
  | _, [] => none
  | [], ']' :: rest => some (negated, [leaf (.singleton ']')], f.skip rest)
  | _, cs => some (negated, hyphens.map fun c => leaf (.singleton c), cs)

/-! ## Classes -/

/-- Reads the rest of a class: `left` is what an operator waits to be combined with, `items` the
items of the current list in reverse. The fuel is more than the characters left. -/
def readInside (f : Flags) :
    Nat → Option (SetOp × Bracket) → List Bracket → List Char → Option (Bracket × List Char)
  | 0, _, _, _ => none
  | fuel + 1, left, items, cs =>
    let soFar := combine f left (ofItems items.reverse)
    match f.skip cs with
    | [] => none
    | '[' :: rest =>
      match readAscii f rest with
      | some (item, rest) => readInside f fuel left (item :: items) rest
      | none => do
        let (negated, start, rest) ← readStart f rest
        let (inside, rest) ← readInside f fuel none start.reverse rest
        let item ← close? f negated inside
        readInside f fuel left (item :: items) rest
    | ']' :: rest => some (soFar, rest)
    | '&' :: '&' :: rest => readInside f fuel (some (.inter, soFar)) [] rest
    | '-' :: '-' :: rest => readInside f fuel (some (.diff, soFar)) [] rest
    | '~' :: '~' :: rest => readInside f fuel (some (.symmDiff, soFar)) [] rest
    | cs => do
      let (item, rest) ← readRange f cs
      readInside f fuel left (item :: items) rest

/-- Reads a class, its opening bracket already read. -/
def read? (f : Flags) (cs : List Char) : Option (Bracket × List Char) := do
  let (negated, start, rest) ← readStart f cs
  let (inside, rest) ← readInside f (cs.length + 1) none start.reverse rest
  let item ← close? f negated inside
  return (item, rest)

end Bracket

end HeaderFacts.Pattern

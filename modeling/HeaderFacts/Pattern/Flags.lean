import HeaderFacts.Pattern.Expr

/-!
# Flags of a pattern

A group such as `(?i)` or `(?m-s:…)` switches flags on and off for what follows it. The flags
decide what the letters of a pattern mean.

Main definitions:

* `Flag`, `Flags` — the flags and the state of all of them.
* `Flags.readLetters` — the letters of a flag group.
* `Flags.skip` — what verbose mode passes over.
-/

namespace HeaderFacts.Pattern

/-- A flag that a group can switch. -/
inductive Flag where
  | ignoreCase
  | multiLine
  | dotNewline
  /-- Exchanges the meanings of `*` and `*?`, which matters to what a match covers only. -/
  | swapGreed
  | unicode
  | crlf
  | verbose
  deriving DecidableEq, Repr

/-- The flag of a letter. -/
def Flag.ofLetter? : Char → Option Flag
  | 'i' => some ignoreCase
  | 'm' => some multiLine
  | 's' => some dotNewline
  | 'U' => some swapGreed
  | 'u' => some unicode
  | 'R' => some crlf
  | 'x' => some verbose
  | _ => none

/-- The state of the flags at a place of a pattern. -/
structure Flags where
  ignoreCase : Bool := false
  multiLine : Bool := false
  dotNewline : Bool := false
  unicode : Bool := true
  crlf : Bool := false
  verbose : Bool := false
  deriving DecidableEq, Repr

namespace Flags

/-- Switches one flag. -/
def switch (f : Flags) : Flag × Bool → Flags
  | (.ignoreCase, b) => { f with ignoreCase := b }
  | (.multiLine, b) => { f with multiLine := b }
  | (.dotNewline, b) => { f with dotNewline := b }
  | (.swapGreed, _) => f
  | (.unicode, b) => { f with unicode := b }
  | (.crlf, b) => { f with crlf := b }
  | (.verbose, b) => { f with verbose := b }

/-- Switches flags one after the other. -/
def switchAll (f : Flags) (switches : List (Flag × Bool)) : Flags :=
  switches.foldl switch f

/-- Reads the letters of a flag group up to the `:` or `)` that ends them; gives the switches, the
ending character and what follows it. A flag may be named once, `-` may stand once and not last. -/
def readLetters (seen : List (Flag × Bool)) (negated dangling : Bool) :
    List Char → Option (List (Flag × Bool) × Char × List Char)
  | [] => none
  | c :: cs =>
    if c = ':' ∨ c = ')' then
      if dangling then none else some (seen, c, cs)
    else if c = '-' then
      if negated then none else readLetters seen true true cs
    else
      match Flag.ofLetter? c with
      | none => none
      | some flag =>
        if seen.any (·.1 == flag) then none
        else readLetters (seen ++ [(flag, !negated)]) negated false cs

/-! ## Verbose mode -/

/-- Passes over blanks and over comments, which run from `#` to the end of a line. -/
def skipVerbose (inComment : Bool) : List Char → List Char
  | [] => []
  | c :: cs =>
    if inComment then skipVerbose (c != '\n') cs
    else if Text.isBlank c then skipVerbose false cs
    else if c = '#' then skipVerbose true cs
    else c :: cs

/-- Passes over what verbose mode ignores; outside of that mode over nothing. -/
def skip (f : Flags) (cs : List Char) : List Char :=
  if f.verbose then skipVerbose false cs else cs

/-- The characters of a class that stand next to each other, but for what verbose mode ignores, and
the text from the first other character on. -/
def run (f : Flags) (p : Char → Bool) (inComment : Bool) : List Char → List Char × List Char
  | [] => ([], [])
  | c :: cs =>
    if inComment then run f p (c != '\n') cs
    else if p c then
      let (taken, rest) := run f p false cs
      (c :: taken, rest)
    else if f.verbose && Text.isBlank c then run f p false cs
    else if f.verbose && c == '#' then run f p true cs
    else ([], c :: cs)

/-- The character after a hyphen that decides whether the hyphen makes a range. -/
def peek (f : Flags) (cs : List Char) : Option Char :=
  if f.verbose then
    match cs.dropWhile Text.isBlank with
    | [] => cs.head?
    | c :: rest =>
      if c = '#' then (rest.dropWhile Text.isBlank).head?.or cs.head? else some c
  else cs.head?

end Flags

end HeaderFacts.Pattern

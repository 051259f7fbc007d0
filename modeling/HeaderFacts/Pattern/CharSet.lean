import HeaderFacts.Text.Blank
import HeaderFacts.Unicode.CaseFolding
import HeaderFacts.Unicode.Word

/-!
# Sets of characters

The sets that a pattern can name, kept as it names them: ranges, Unicode properties and the set
operations of a bracketed class. Membership is decided by recursion on the set.

Main definitions:

* `CharSet` — a set of characters.
* `CharSet.contains` — membership.
* `CharSet.ofAsciiName?` — the ASCII classes that have a name.
* `CharSet.cost` — how much room a set takes in a compiled pattern.
-/

namespace HeaderFacts.Pattern

/-- A set of characters. -/
inductive CharSet where
  | nothing
  | range (lo hi : Char)
  | word
  | digit
  | blank
  | union (a b : CharSet)
  | inter (a b : CharSet)
  | diff (a b : CharSet)
  | compl (a : CharSet)
  /-- The characters that differ from a member at most in case. -/
  | anyCase (a : CharSet)
  deriving DecidableEq, Repr

namespace CharSet

/-- Whether a character is in a set. -/
def contains : CharSet → Char → Bool
  | nothing, _ => false
  | range lo hi, c => lo ≤ c && c ≤ hi
  | word, c => Unicode.isWord c
  | digit, c => Unicode.isDecimalDigit c
  | blank, c => Text.isBlank c
  | union a b, c => a.contains c || b.contains c
  | inter a b, c => a.contains c && b.contains c
  | diff a b, c => a.contains c && !b.contains c
  | compl a, c => !a.contains c
  | anyCase a, c => (Unicode.caseOrbit c).any a.contains

/-- The set of one character. -/
def singleton (c : Char) : CharSet := range c c

/-- The union of several sets. -/
def unions : List CharSet → CharSet
  | [] => nothing
  | [a] => a
  | a :: rest => union a (unions rest)

/-- The members of exactly one of two sets. -/
def symmDiff (a b : CharSet) : CharSet :=
  union (diff a b) (diff b a)

/-- Every character. -/
def everything : CharSet := compl nothing

/-- The word characters among ASCII. -/
def asciiWord : CharSet :=
  unions [range '0' '9', range 'A' 'Z', singleton '_', range 'a' 'z']

/-- The white space characters among ASCII. -/
def asciiBlank : CharSet :=
  union (range '\t' '\r') (singleton ' ')

/-- The ASCII class of a name. -/
def ofAsciiName? (name : List Char) : Option CharSet :=
  match String.ofList name with
  | "alnum" => some (unions [range '0' '9', range 'A' 'Z', range 'a' 'z'])
  | "alpha" => some (union (range 'A' 'Z') (range 'a' 'z'))
  | "ascii" => some (range '\x00' '\x7f')
  | "blank" => some (union (singleton '\t') (singleton ' '))
  | "cntrl" => some (union (range '\x00' '\x1f') (singleton '\x7f'))
  | "digit" => some (range '0' '9')
  | "graph" => some (range '!' '~')
  | "lower" => some (range 'a' 'z')
  | "print" => some (range ' ' '~')
  | "punct" => some (unions [range '!' '/', range ':' '@', range '[' '\x60', range '\x7b' '~'])
  | "space" => some asciiBlank
  | "upper" => some (range 'A' 'Z')
  | "word" => some asciiWord
  | "xdigit" => some (unions [range '0' '9', range 'A' 'F', range 'a' 'f'])
  | _ => none

/-- Bytes that the states of a set take in a compiled pattern: few for a set of ASCII characters,
many for a property with ranges all over Unicode. -/
def cost : CharSet → Nat
  | nothing => 32
  | range _ hi => if hi.toNat ≤ 0x7f then 32 else 128
  | word => 48000
  | digit => 6000
  | blank => 600
  | union a b => a.cost + b.cost
  | inter a b => max a.cost b.cost
  | diff a b => max a.cost b.cost
  | compl a => a.cost + 320
  | anyCase a => a.cost + 32

end CharSet

end HeaderFacts.Pattern

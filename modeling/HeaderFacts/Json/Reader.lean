import HeaderFacts.Json.Basic
import HeaderFacts.Text.Numeral

/-!
# Reading JSON

JSON text in its strict form: no comments, no trailing commas, no control characters in strings,
and nothing but white space around the value.

Main definitions:

* `Json.ofText?` — the value that a text denotes.
-/

namespace HeaderFacts.Json

/-- White space between tokens. -/
def isSpace (c : Char) : Bool :=
  c == ' ' || c == '\t' || c == '\n' || c == '\r'

/-- Passes over white space. -/
def skipSpace (cs : List Char) : List Char :=
  cs.dropWhile isSpace

/-! ## Strings -/

/-- The character that an escape of one letter stands for. -/
def simpleEscape? : Char → Option Char
  | '\x22' => some '\x22'
  | '\\' => some '\\'
  | '/' => some '/'
  | 'b' => some '\x08'
  | 'f' => some '\x0c'
  | 'n' => some '\n'
  | 'r' => some '\r'
  | 't' => some '\t'
  | _ => none

/-- What one character or escape of a string contributes: a character, or half of a pair. -/
inductive Piece where
  | char (c : Char)
  | surrogate (unit : Nat)
  deriving Repr

/-- What a UTF-16 unit contributes. -/
def Piece.ofUnit (unit : Nat) : Piece :=
  if unit < 0xD800 ∨ 0xDFFF < unit then char (Char.ofNat unit) else surrogate unit

/-- Reads the pieces of a string whose opening quote has been read; those before are in reverse. -/
def readPieces (read : List Piece) : List Char → Option (List Piece × List Char)
  | [] => none
  | '\x22' :: rest => some (read.reverse, rest)
  | '\\' :: 'u' :: a :: b :: c :: d :: rest =>
    match Text.numeral? 16 [a, b, c, d] with
    | none => none
    | some unit => readPieces (.ofUnit unit :: read) rest
  | '\\' :: c :: rest =>
    match simpleEscape? c with
    | none => none
    | some c => readPieces (.char c :: read) rest
  | c :: rest => if c.toNat < 0x20 ∨ c = '\\' then none else readPieces (.char c :: read) rest

/-- The characters of pieces; a surrogate counts only as half of a pair. -/
def joinPieces : List Piece → Option (List Char)
  | [] => some []
  | .char c :: rest => (joinPieces rest).map (c :: ·)
  | .surrogate high :: .surrogate low :: rest =>
    if high < 0xDC00 ∧ 0xDC00 ≤ low then
      let value := 0x10000 + (high - 0xD800) * 0x400 + (low - 0xDC00)
      (joinPieces rest).map (Char.ofNat value :: ·)
    else none
  | .surrogate _ :: _ => none

/-- Reads a string whose opening quote has been read. There is no string if an escape names half of
a surrogate pair without the other half. -/
def readString (cs : List Char) : Option (Option String × List Char) :=
  (readPieces [] cs).map fun (pieces, rest) => ((joinPieces pieces).map String.ofList, rest)

/-! ## Numbers -/

/-- The digits that a text begins with, and the rest. -/
def spanDigits (cs : List Char) : List Char × List Char :=
  (cs.takeWhile Char.isDigit, cs.dropWhile Char.isDigit)

/-- Reads a fraction, if there is one; tells whether there was. -/
def readFraction : List Char → Option (Bool × List Char)
  | '.' :: rest =>
    match spanDigits rest with
    | ([], _) => none
    | (_, rest) => some (true, rest)
  | cs => some (false, cs)

/-- Reads the digits of an exponent. -/
def readExponentDigits (cs : List Char) : Option (Bool × List Char) :=
  match spanDigits cs with
  | ([], _) => none
  | (_, rest) => some (true, rest)

/-- Reads an exponent, if there is one; tells whether there was. -/
def readExponent : List Char → Option (Bool × List Char)
  | c :: rest =>
    if c = 'e' ∨ c = 'E' then
      match rest with
      | '+' :: rest => readExponentDigits rest
      | '-' :: rest => readExponentDigits rest
      | rest => readExponentDigits rest
    else some (false, c :: rest)
  | [] => some (false, [])

/-- Reads a number after its sign. -/
def readUnsigned (negative : Bool) (cs : List Char) : Option (Json × List Char) := do
  let (digits, rest) := spanDigits cs
  if digits.isEmpty || (digits.length > 1 && digits.head? == some '0') then none
  let (fraction, rest) ← readFraction rest
  let (exponent, rest) ← readExponent rest
  let value : Nat := Text.numeral 10 digits
  if fraction || exponent || (negative && value == 0) then return (real, rest)
  else return (int (if negative then -(value : Int) else value), rest)

/-- Reads a number. -/
def readNumber : List Char → Option (Json × List Char)
  | '-' :: rest => readUnsigned true rest
  | cs => readUnsigned false cs

/-! ## Values -/

/-- An object of members; one with a key that denotes no string can only be passed over. -/
def ofMembers (members : List (Option String × Json)) : Json :=
  match members.mapM fun (key, value) => key.map (·, value) with
  | some members => obj members
  | none => unreadable

mutual

/-- Reads a value. The fuel is more than twice the characters left. -/
def readValue : Nat → List Char → Option (Json × List Char)
  | 0, _ => none
  | fuel + 1, cs =>
    match skipSpace cs with
    | 'n' :: 'u' :: 'l' :: 'l' :: rest => some (null, rest)
    | 't' :: 'r' :: 'u' :: 'e' :: rest => some (bool true, rest)
    | 'f' :: 'a' :: 'l' :: 's' :: 'e' :: rest => some (bool false, rest)
    | '\x22' :: rest =>
      (readString rest).map fun (s, rest) => ((s.map str).getD unreadable, rest)
    | '[' :: rest =>
      match skipSpace rest with
      | ']' :: rest => some (arr [], rest)
      | rest => readItems fuel [] rest
    | '\x7b' :: rest =>
      match skipSpace rest with
      | '\x7d' :: rest => some (obj [], rest)
      | rest => readMembers fuel [] rest
    | cs => readNumber cs

/-- Reads the elements of an array from the next one on; those before it are in reverse. -/
def readItems : Nat → List Json → List Char → Option (Json × List Char)
  | 0, _, _ => none
  | fuel + 1, items, cs => do
    let (item, rest) ← readValue fuel cs
    match skipSpace rest with
    | ',' :: rest => readItems fuel (item :: items) rest
    | ']' :: rest => return (arr (item :: items).reverse, rest)
    | _ => none

/-- Reads the members of an object from the next one on; those before it are in reverse. -/
def readMembers : Nat → List (Option String × Json) → List Char → Option (Json × List Char)
  | 0, _, _ => none
  | fuel + 1, members, cs =>
    match skipSpace cs with
    | '\x22' :: rest => do
      let (key, rest) ← readString rest
      match skipSpace rest with
      | ':' :: rest =>
        let (value, rest) ← readValue fuel rest
        match skipSpace rest with
        | ',' :: rest => readMembers fuel ((key, value) :: members) rest
        | '\x7d' :: rest => return (ofMembers ((key, value) :: members).reverse, rest)
        | _ => none
      | _ => none
    | _ => none

end

/-- The value that a text denotes. -/
def ofText? (text : String) : Option Json :=
  let cs := text.toList
  match readValue (2 * cs.length + 2) cs with
  | some (value, rest) => if (skipSpace rest).isEmpty then some value else none
  | none => none

end HeaderFacts.Json

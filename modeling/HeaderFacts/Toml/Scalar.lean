import HeaderFacts.Text.Numeral
import HeaderFacts.Toml.Float
import HeaderFacts.Toml.Value
import HeaderFacts.Word64

/-!
# TOML scalars

Strings in their four forms, and the numbers, truth values and times that are written as one run of
characters.

Main definitions:

* `Toml.readString` — a string of any form.
* `Toml.ofRun?` — the value of a run of characters.
-/

namespace HeaderFacts.Toml

/-! ## Characters -/

/-- White space within a line. -/
def isSpace (c : Char) : Bool :=
  c == ' ' || c == '\t'

/-- Passes over white space within a line. -/
def skipSpace (cs : List Char) : List Char :=
  cs.dropWhile isSpace

/-- Whether a character may stand in a comment or a string: no control characters but the tab. -/
def isPrintable (c : Char) : Bool :=
  c == '\t' || (0x20 ≤ c.toNat && c.toNat != 0x7f)

/-- What follows a line break. -/
def dropNewline? : List Char → Option (List Char)
  | '\n' :: rest => some rest
  | '\r' :: '\n' :: rest => some rest
  | _ => none

/-! ## Strings -/

/-- The character that an escape of one letter stands for. -/
def simpleEscape? : Char → Option Char
  | 'b' => some '\x08'
  | 't' => some '\t'
  | 'n' => some '\n'
  | 'f' => some '\x0c'
  | 'r' => some '\r'
  | '\x22' => some '\x22'
  | '\\' => some '\\'
  | _ => none

/-- Reads a code point of a given number of hexadecimal digits. -/
def readCodePoint (width : Nat) (cs : List Char) : Option (Char × List Char) := do
  let digits := cs.take width
  let value ← Text.numeral? 16 digits
  if digits.length = width ∧ value.isValidChar then
    return (Char.ofNat value, cs.drop width)
  else none

/-- Reads an escape, given what follows its backslash. -/
def readEscape : List Char → Option (Char × List Char)
  | [] => none
  | 'u' :: rest => readCodePoint 4 rest
  | 'U' :: rest => readCodePoint 8 rest
  | c :: rest => (simpleEscape? c).map (·, rest)

/-- Reads a string of one line in double quotes, the opening one already read. The fuel is more than
the characters left; the characters read are in reverse. -/
def readBasic : Nat → List Char → List Char → Option (String × List Char)
  | 0, _, _ => none
  | fuel + 1, read, cs =>
    match cs with
    | [] => none
    | '\x22' :: rest => some (String.ofList read.reverse, rest)
    | '\\' :: rest =>
      match readEscape rest with
      | none => none
      | some (c, rest) => readBasic fuel (c :: read) rest
    | c :: rest => if isPrintable c then readBasic fuel (c :: read) rest else none

/-- Reads a string of one line in single quotes, the opening one already read. -/
def readLiteral (cs : List Char) : Option (String × List Char) :=
  match cs.span isPrintable with
  | (line, after) =>
    match line.dropWhile (· != '\x27') with
    | _ :: rest => some (String.ofList (line.takeWhile (· != '\x27')), rest ++ after)
    | [] => none

/-- Passes over the white space and line breaks after a backslash that ends a line. -/
def skipFolded : Nat → List Char → List Char
  | 0, cs => cs
  | fuel + 1, cs =>
    let cs := skipSpace cs
    match dropNewline? cs with
    | some rest => skipFolded fuel rest
    | none => cs

/-- Reads a string of several lines, its opening quotes already read. Up to two quotes in a row
belong to the string, also before the three that end it. Only in double quotes do backslashes
escape. -/
def readLong (quote : Char) : Nat → List Char → List Char → Option (String × List Char)
  | 0, _, _ => none
  | fuel + 1, read, cs =>
    match cs with
    | [] => none
    | c :: rest =>
      if c = quote then
        let count := (cs.takeWhile (· == quote)).length
        let after := cs.drop count
        if count ≤ 2 then readLong quote fuel (List.replicate count quote ++ read) after
        else if count ≤ 5 then
          some (String.ofList (read.reverse ++ List.replicate (count - 3) quote), after)
        else none
      else
        match dropNewline? cs with
        | some rest => readLong quote fuel ('\n' :: read) rest
        | none =>
          if c = '\\' ∧ quote = '\x22' then
            match dropNewline? (skipSpace rest) with
            | some rest => readLong quote fuel read (skipFolded (rest.length + 1) rest)
            | none =>
              match readEscape rest with
              | none => none
              | some (c, rest) => readLong quote fuel (c :: read) rest
          else if isPrintable c then readLong quote fuel (c :: read) rest
          else none

/-- Drops the line break right after the quotes that open a string of several lines. -/
def dropFirstNewline (cs : List Char) : List Char :=
  (dropNewline? cs).getD cs

/-- Reads a string of any form, from its opening quote on. -/
def readString (cs : List Char) : Option (String × List Char) :=
  match cs with
  | '\x22' :: '\x22' :: '\x22' :: rest =>
    readLong '\x22' (cs.length + 1) [] (dropFirstNewline rest)
  | '\x27' :: '\x27' :: '\x27' :: rest =>
    readLong '\x27' (cs.length + 1) [] (dropFirstNewline rest)
  | '\x22' :: rest => readBasic (cs.length + 1) [] rest
  | '\x27' :: rest => readLiteral rest
  | _ => none

/-! ## Numbers -/

/-- The digits of a run in which single underscores may stand between digits. -/
def digitsOf? (isDigit : Char → Bool) (run : List Char) : Option (List Char) :=
  let ok (a b : Char) : Bool := a != '_' || b != '_'
  if run.isEmpty || run.head? == some '_' || run.getLast? == some '_' then none
  else if !run.all (fun c => isDigit c || c == '_') then none
  else if !(List.zipWith ok run (run.drop 1)).all id then none
  else some (run.filter (· != '_'))

/-- The digits of a decimal run without superfluous zeros. -/
def decimalOf? (run : List Char) : Option (List Char) := do
  let digits ← digitsOf? Char.isDigit run
  if digits.length > 1 && digits.head? == some '0' then none else return digits

/-- The integer of a run. -/
def integerOfRun? (run : List Char) : Option Int64 :=
  match run with
  | '0' :: 'x' :: rest => do
    wordOf? (Text.numeral 16 (← digitsOf? (Text.isDigitOf 16) rest))
  | '0' :: 'o' :: rest => do
    wordOf? (Text.numeral 8 (← digitsOf? (Text.isDigitOf 8) rest))
  | '0' :: 'b' :: rest => do
    wordOf? (Text.numeral 2 (← digitsOf? (Text.isDigitOf 2) rest))
  | '-' :: rest => do wordOf? (-(Text.numeral 10 (← decimalOf? rest) : Int))
  | '+' :: rest => do wordOf? (Text.numeral 10 (← decimalOf? rest))
  | rest => do wordOf? (Text.numeral 10 (← decimalOf? rest))

/-- Writes a decimal number without an exponent: `digits` times ten to the power of `scale`, without
superfluous zeros. -/
def positional (digits : List Char) (scale : Int) : List Char :=
  let digits := digits.dropWhile (· == '0')
  let kept := (digits.reverse.dropWhile (· == '0')).reverse
  if kept.isEmpty then ['0']
  else
    let scale := scale + (digits.length - kept.length : Nat)
    if 0 ≤ scale then kept ++ List.replicate scale.toNat '0'
    else
      let places := (-scale).toNat
      let padded := List.replicate (places + 1 - kept.length) '0' ++ kept
      let split := padded.length - places
      padded.take split ++ '.' :: padded.drop split

/-- The integer of an exponent. -/
def exponentOf? (run : List Char) : Option Int :=
  match run with
  | '-' :: rest => (digitsOf? Char.isDigit rest).map fun digits => -(Text.numeral 10 digits : Int)
  | '+' :: rest => (digitsOf? Char.isDigit rest).map fun digits => (Text.numeral 10 digits : Int)
  | rest => (digitsOf? Char.isDigit rest).map fun digits => (Text.numeral 10 digits : Int)

/-- The text of a number with a fraction or exponent, its sign already read. A positive number that
is too large is none; a negative one counts as infinite. -/
def floatText? (negative : Bool) (run : List Char) : Option (List Char) := do
  if run = "inf".toList then return run
  if run = "nan".toList then return "NaN".toList
  let isExponent (c : Char) : Bool := c == 'e' || c == 'E'
  let mantissa := run.takeWhile (!isExponent ·)
  let exponent ←
    match run.dropWhile (!isExponent ·) with
    | [] => some 0
    | _ :: rest => exponentOf? rest
  let whole ← decimalOf? (mantissa.takeWhile (· != '.'))
  let fraction ←
    match mantissa.dropWhile (· != '.') with
    | [] => some []
    | _ :: rest => digitsOf? Char.isDigit rest
  if mantissa.length = run.length ∧ fraction.isEmpty then none
  match Binary64.ofDecimal? (Text.numeral 10 (whole ++ fraction)) (exponent - fraction.length) with
  | none => if negative then "inf".toList else none
  | some b =>
    let (digits, scale) := b.shortest
    return positional (Nat.toDigits 10 digits) scale

/-- The number with a fraction or exponent of a run. -/
def floatOfRun? (run : List Char) : Option Toml :=
  match run with
  | '-' :: rest =>
    (floatText? true rest).map fun text =>
      float (String.ofList (if text.head? = some 'N' then text else '-' :: text))
  | '+' :: rest => (floatText? false rest).map fun text => float (String.ofList text)
  | rest => (floatText? false rest).map fun text => float (String.ofList text)

/-! ## Times -/

/-- The number of exactly `width` decimal digits. -/
def fixedNumber? (width : Nat) (cs : List Char) : Option Nat :=
  if cs.length = width ∧ cs.all Char.isDigit then some (Text.numeral 10 cs) else none

/-- The days of a month. -/
def daysOf (year month : Nat) : Nat :=
  if month = 2 then
    if year % 4 = 0 ∧ (year % 100 ≠ 0 ∨ year % 400 = 0) then 29 else 28
  else if [4, 6, 9, 11].contains month then 30 else 31

/-- Whether a text is a date such as `2000-02-29`. -/
def isDate : List Char → Bool
  | [a, b, c, d, '-', e, f, '-', g, h] =>
    match fixedNumber? 4 [a, b, c, d], fixedNumber? 2 [e, f], fixedNumber? 2 [g, h] with
    | some year, some month, some day =>
      1 ≤ month && month ≤ 12 && 1 ≤ day && day ≤ daysOf year month
    | _, _, _ => false
  | _ => false

/-- Whether a text gives hours and minutes such as `23:59`. -/
def isHourMinute : List Char → Bool
  | [a, b, ':', c, d] =>
    match fixedNumber? 2 [a, b], fixedNumber? 2 [c, d] with
    | some hour, some minute => hour ≤ 23 && minute ≤ 59
    | _, _ => false
  | _ => false

/-- The text of a fraction of a second, of which nine digits count. -/
def fractionText? : List Char → Option (List Char)
  | [] => some []
  | '.' :: digits =>
    if digits.isEmpty || !digits.all Char.isDigit then none
    else
      let kept := ((digits.take 9).reverse.dropWhile (· == '0')).reverse
      some (if kept.isEmpty then [] else '.' :: kept)
  | _ => none

/-- The text of a time such as `23:59:59.25`. -/
def timeText? (cs : List Char) : Option (List Char) := do
  if !isHourMinute (cs.take 5) then none
  match cs.drop 5 with
  | ':' :: rest =>
    let seconds ← fixedNumber? 2 (rest.take 2)
    let fraction ← fractionText? (rest.drop 2)
    if seconds ≤ 60 then return cs.take 5 ++ ':' :: rest.take 2 ++ fraction else none
  | _ => none

/-- Splits an offset such as `Z` or `+01:00` from the end of a time. -/
def splitOffset (cs : List Char) : List Char × Option (List Char) :=
  let time := cs.takeWhile fun c => c.isDigit || c == ':' || c == '.'
  (time, if time.length = cs.length then none else some (cs.drop time.length))

/-- The text of an offset. -/
def offsetText? : List Char → Option (List Char)
  | ['Z'] => some ['Z']
  | ['z'] => some ['Z']
  | sign :: rest =>
    if (sign == '+' || sign == '-') && isHourMinute rest then some (sign :: rest) else none
  | [] => none

/-- The date, time or both of a run. -/
def datetimeOfRun? (run : List Char) : Option Toml := do
  let date := run.take 10
  if isDate date then
    match run.drop 10 with
    | [] => return datetime (String.ofList date)
    | separator :: rest =>
      if !(separator == 'T' || separator == 't' || separator == ' ') then none
      let (time, offset) := splitOffset rest
      let time ← timeText? time
      let offset ←
        match offset with
        | none => some []
        | some offset => offsetText? offset
      return datetime (String.ofList (date ++ 'T' :: time ++ offset))
  else return datetime (String.ofList (← timeText? run))

/-! ## Runs -/

/-- Whether a character can belong to a number, a truth value or a time. -/
def isRunChar (c : Char) : Bool :=
  c.isAlphanum || c == '_' || c == '+' || c == '-' || c == '.' || c == ':'

/-- The value of a run of characters. -/
def ofRun? (run : List Char) : Option Toml :=
  if run = "true".toList then some (bool true)
  else if run = "false".toList then some (bool false)
  else (((integerOfRun? run).map integer).or (floatOfRun? run)).or (datetimeOfRun? run)

/-- Reads a run of characters; a date takes in the time after a space. -/
def readRun (cs : List Char) : Option (Toml × List Char) :=
  let run := cs.takeWhile isRunChar
  let rest := cs.drop run.length
  match rest with
  | ' ' :: d :: after =>
    if isDate run && d.isDigit then
      let time := (d :: after).takeWhile isRunChar
      (ofRun? (run ++ ' ' :: time)).map (·, (d :: after).drop time.length)
    else (ofRun? run).map (·, rest)
  | _ => (ofRun? run).map (·, rest)

end HeaderFacts.Toml

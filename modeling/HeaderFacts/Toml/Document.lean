import HeaderFacts.Toml.Scalar

/-!
# TOML documents

A document is a sequence of lines: entries of the table that the last header has named, and headers.
A table may be named once, an entry may be given once, and a dotted key may reach only into tables
that dotted keys have made.

Main definitions:

* `Toml.insertAt?`, `Toml.openTable?`, `Toml.addTable?` — what a line does to the document.
* `Toml.ofText?` — the table that a text denotes.
-/

namespace HeaderFacts.Toml

/-- The entries of a table. -/
abbrev Entries := List (String × Toml)

/-! ## Changing tables -/

/-- Replaces the value of a key, or adds an entry at the end. -/
def setEntry (key : String) (value : Toml) : Entries → Entries
  | [] => [(key, value)]
  | (k, v) :: rest => if k = key then (k, value) :: rest else (k, v) :: setEntry key value rest

/-- Changes the last element. -/
def modifyLast (f : Toml → Option Toml) : List Toml → Option (List Toml)
  | [] => none
  | [last] => (f last).map ([·])
  | item :: rest => (modifyLast f rest).map (item :: ·)

/-- Adds an entry at the end of a dotted key. The tables on the way must come from dotted keys, and
the last key must be new. -/
def insertAt? (value : Toml) : List String → Entries → Option Entries
  | [], _ => none
  | [key], entries =>
    match entries.lookup key with
    | none => some (entries ++ [(key, value)])
    | some _ => none
  | key :: path, entries =>
    match entries.lookup key with
    | none => (insertAt? value path []).map fun inner => entries ++ [(key, table .dotted inner)]
    | some (table .dotted inner) =>
      (insertAt? value path inner).map fun inner => setEntry key (table .dotted inner) entries
    | some _ => none

/-- Changes the entries of the table that a header path leads to, passing through the last elements
of arrays of tables and making the tables that are missing. -/
def modifyAt? (f : Entries → Option Entries) : List String → Entries → Option Entries
  | [], entries => f entries
  | key :: path, entries =>
    match entries.lookup key with
    | none => (modifyAt? f path []).map fun inner => entries ++ [(key, table .implied inner)]
    | some (table origin inner) =>
      -- Braces close a table for good.
      if origin = .inline then none
      else (modifyAt? f path inner).map fun inner => setEntry key (table origin inner) entries
    | some (tables items) =>
      let step : Toml → Option Toml
        | table origin inner => (modifyAt? f path inner).map (table origin)
        | _ => none
      (modifyLast step items).map fun items => setEntry key (tables items) entries
    | some _ => none

/-- What a header does to the table around the one it names: that may not have been named before. -/
def nameTable? (key : String) (entries : Entries) : Option Entries :=
  match entries.lookup key with
  | none => some (entries ++ [(key, table .header [])])
  | some (table .implied inner) => some (setEntry key (table .header inner) entries)
  | some _ => none

/-- What a header in double brackets does to the table around the array it names. -/
def nameElement? (key : String) (entries : Entries) : Option Entries :=
  match entries.lookup key with
  | none => some (entries ++ [(key, tables [table .header []])])
  | some (tables items) => some (setEntry key (tables (items ++ [table .header []])) entries)
  | some _ => none

/-- The document after the header of a table. -/
def openTable? (path : List String) (document : Entries) : Option Entries := do
  modifyAt? (nameTable? (← path.getLast?)) path.dropLast document

/-- The document after the header of an element of an array. -/
def addTable? (path : List String) (document : Entries) : Option Entries := do
  modifyAt? (nameElement? (← path.getLast?)) path.dropLast document

/-! ## Keys -/

/-- Whether a character can stand in a key without quotes. -/
def isKeyChar (c : Char) : Bool :=
  c.isAlphanum || c == '_' || c == '-'

/-- Reads a key without dots. -/
def readKeyPart (cs : List Char) : Option (String × List Char) :=
  match cs with
  | '\x22' :: rest => readBasic (cs.length + 1) [] rest
  | '\x27' :: rest => readLiteral rest
  | _ =>
    let name := cs.takeWhile isKeyChar
    if name.isEmpty then none else some (String.ofList name, cs.drop name.length)

/-- Reads a key; blanks may stand around its dots and after it. The fuel is more than the characters
left. -/
def readKey : Nat → List Char → Option (List String × List Char)
  | 0, _ => none
  | fuel + 1, cs =>
    match readKeyPart (skipSpace cs) with
    | none => none
    | some (key, rest) =>
      match skipSpace rest with
      | '.' :: rest => (readKey fuel rest).map fun (path, rest) => (key :: path, rest)
      | rest => some ([key], rest)

/-! ## Values -/

/-- Passes over the rest of a line, which may hold a comment; nothing if it holds anything else. -/
def finishLine? (cs : List Char) : Option (List Char) :=
  let cs := skipSpace cs
  let cs := if cs.head? = some '#' then cs.dropWhile isPrintable else cs
  match cs with
  | [] => some []
  | _ => dropNewline? cs

/-- Passes over blanks, comments and line breaks. -/
def skipLines : Nat → List Char → List Char
  | 0, cs => cs
  | fuel + 1, cs =>
    match skipSpace cs with
    | [] => []
    | c :: rest =>
      if c == '#' || c == '\n' || c == '\r' then
        match finishLine? (c :: rest) with
        | some rest => skipLines fuel rest
        | none => c :: rest
      else c :: rest

mutual

/-- Reads a value. The fuel is more than twice the characters left. -/
def readValue : Nat → List Char → Option (Toml × List Char)
  | 0, _ => none
  | fuel + 1, cs =>
    match cs with
    | '\x22' :: _ => (readString cs).map fun (s, rest) => (string s, rest)
    | '\x27' :: _ => (readString cs).map fun (s, rest) => (string s, rest)
    | '[' :: rest => readItems fuel [] rest
    | '\x7b' :: rest =>
      match skipSpace rest with
      | '\x7d' :: rest => some (table .inline [], rest)
      | rest => readMembers fuel [] rest
    | _ => readRun cs

/-- Reads the elements of an array, the ones before in reverse. -/
def readItems : Nat → List Toml → List Char → Option (Toml × List Char)
  | 0, _, _ => none
  | fuel + 1, items, cs =>
    match skipLines (cs.length + 1) cs with
    | ']' :: rest => some (array items.reverse, rest)
    | cs => do
      let (item, rest) ← readValue fuel cs
      match skipLines (rest.length + 1) rest with
      | ',' :: rest => readItems fuel (item :: items) rest
      | ']' :: rest => return (array (item :: items).reverse, rest)
      | _ => none

/-- Reads the entries of a table between braces. -/
def readMembers : Nat → Entries → List Char → Option (Toml × List Char)
  | 0, _, _ => none
  | fuel + 1, entries, cs => do
    let (path, rest) ← readKey (cs.length + 1) cs
    match rest with
    | '=' :: rest =>
      let (value, rest) ← readValue fuel (skipSpace rest)
      let entries ← insertAt? value path entries
      match skipSpace rest with
      | ',' :: rest => readMembers fuel entries rest
      | '\x7d' :: rest => return (table .inline entries, rest)
      | _ => none
    | _ => none

end

/-! ## Documents -/

/-- Reads the key of a header up to its closing brackets and the end of the line. -/
def readHeader (brackets : Nat) (cs : List Char) : Option (List String × List Char) := do
  let (path, rest) ← readKey (cs.length + 1) cs
  if rest.take brackets = List.replicate brackets ']' then
    return (path, ← finishLine? (rest.drop brackets))
  else none

/-- Reads lines into a document; `here` is the path of the table that entries go to. The fuel is
more than the characters left. -/
def readLines : Nat → List String → Entries → List Char → Option Entries
  | 0, _, _, _ => none
  | fuel + 1, here, document, cs =>
    match skipLines (cs.length + 1) cs with
    | [] => some document
    | '[' :: '[' :: rest => do
      let (path, rest) ← readHeader 2 rest
      readLines fuel path (← addTable? path document) rest
    | '[' :: rest => do
      let (path, rest) ← readHeader 1 rest
      readLines fuel path (← openTable? path document) rest
    | cs => do
      let (path, rest) ← readKey (cs.length + 1) cs
      match rest with
      | '=' :: rest =>
        let rest := skipSpace rest
        let (value, rest) ← readValue (2 * rest.length + 2) rest
        let document ← modifyAt? (insertAt? value path) here document
        readLines fuel here document (← finishLine? rest)
      | _ => none

/-- The entries of the document that a text denotes. -/
def ofText? (text : String) : Option Entries :=
  let cs :=
    match text.toList with
    | '\uFEFF' :: rest => rest
    | cs => cs
  readLines (cs.length + 1) [] [] cs

end HeaderFacts.Toml

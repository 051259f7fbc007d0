/-!
# Files that cannot be used

How reading or writing a file fails, and how the bytes of a file are read as text.

Main definitions:

* `FileFault` — how a file fails.
* `FileContent` — the bytes of a file, or how it fails.
* `textOf` — the text of a file.
-/

namespace HeaderFacts

/-- How reading or writing a file fails. -/
inductive FileFault where
  | missing
  | directory
  /-- A part of the path before the last one is no directory. -/
  | notDirectory
  /-- The bytes are no UTF-8 text. -/
  | notText
  /-- Any other failure, in the words of the system. -/
  | other (reason : String)
  deriving DecidableEq, Repr

/-- The wording of a failure. -/
def FileFault.message : FileFault → String
  | missing => "No such file or directory (os error 2)"
  | directory => "Is a directory (os error 21)"
  | notDirectory => "Not a directory (os error 20)"
  | notText => "stream did not contain valid UTF-8"
  | other reason => reason

/-- The bytes of a file, or how it fails. -/
abbrev FileContent := Except FileFault ByteArray

/-- The text of a file. -/
def textOf (content : FileContent) : Except FileFault String := do
  match String.fromUTF8? (← content) with
  | some text => return text
  | none => throw .notText

end HeaderFacts

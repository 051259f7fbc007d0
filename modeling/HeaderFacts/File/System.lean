import HeaderFacts.File.Fault

/-!
# File systems

What a program needs of the files of a machine. A path leads to a file, to one of the program's own
streams, or to something that keeps nothing of what is written to it; which paths lead where, and
through which directories and links, is up to the file system.

Main definitions:

* `Destination` — where a text goes that is written to a path.
* `FileSystem` — reading and writing whole files.
-/

namespace HeaderFacts

/-- Where a text goes that is written to a path. -/
inductive Destination (σ File : Type) where
  /-- A file, and all files as they are once it has been written. -/
  | file (file : File) (files : σ)
  /-- The standard output of the program. -/
  | stdout
  /-- The error output of the program. -/
  | stderr
  /-- A device that takes every text and keeps none. -/
  | nowhere

/-- Reading and writing whole files, where `σ` is what all files together can be. A write that fails
changes nothing. -/
structure FileSystem (σ : Type) where
  /-- What tells a file from others, by whatever paths it is reached. -/
  File : Type
  /-- The file that a path leads to. -/
  file? : σ → String → Option File
  /-- What a file holds, if it is there. -/
  bytes? : σ → File → Option ByteArray
  read : σ → String → FileContent
  /-- Replaces what is at the end of a path by a text. -/
  write : σ → String → String → Except FileFault (Destination σ File)
  /-- A file that has been written is at the end of the path. -/
  file?_of_write : ∀ {s path text file t}, write s path text = .ok (.file file t) →
    file? t path = some file
  /-- It holds the text, -/
  bytes?_of_write : ∀ {s path text file t}, write s path text = .ok (.file file t) →
    bytes? t file = some text.toUTF8
  /-- and every other file is as it was. -/
  bytes?_of_write_of_ne : ∀ {s path text file t other}, write s path text = .ok (.file file t) →
    other ≠ file → bytes? t other = bytes? s other

end HeaderFacts

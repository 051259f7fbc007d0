import HeaderFacts.Dump.Basic
import HeaderFacts.Dump.Session

/-!
# Catalogs

A dump with the directories in which its headers are looked up. A header is found under its own
path, or else, if that is relative, under the first directory that has it.

Main definitions:

* `Catalog` — a dump and include directories.
* `Catalog.resolve?` — the path at which a header is found.
* `Catalog.openSession` — the session of a request.
-/

namespace HeaderFacts

/-- A dump with the directories in which its headers are looked up. -/
structure Catalog where
  dump : Dump
  includePaths : List String := []
  deriving DecidableEq, Repr

/-- Whether a path begins at the root. -/
def isAbsolute (path : String) : Bool :=
  Text.startsWith ['/'] path.toList

/-- The path of a file in a directory. -/
def joinPath (dir file : String) : String :=
  if dir.isEmpty then file
  else if dir.toList.getLast? = some '/' then dir ++ file
  else dir ++ "/" ++ file

namespace Catalog

/-- The path at which a header is found. -/
def resolve? (c : Catalog) (header : String) : Option String :=
  if c.dump.headers.contains header then some header
  else if isAbsolute header then none
  else (c.includePaths.map (joinPath · header)).find? c.dump.headers.contains

/-- The paths of the headers, or the first header that is not found. -/
def resolveAll (c : Catalog) : List String → Except QueryError (List String)
  | [] => .ok []
  | header :: rest =>
    match c.resolve? header with
    | none => .error (.headerNotFound header)
    | some path => (c.resolveAll rest).map (path :: ·)

/-- The visible declarations of the headers of a request. A header that is named twice counts
where it is named first. -/
def openSession (c : Catalog) (r : Request) : Except QueryError Session := do
  let paths ← c.resolveAll r.headers
  -- Two spellings of one header lead to the same path, which is taken once.
  let decls := paths.eraseDups.flatMap fun path => (c.dump.headers.get? path).getD []
  return { target := c.dump.target, decls := decls.filter r.shows }

end Catalog

end HeaderFacts

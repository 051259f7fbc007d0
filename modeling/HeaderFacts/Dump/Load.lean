import HeaderFacts.Dump.Json
import HeaderFacts.Dump.Yaml
import HeaderFacts.Error
import HeaderFacts.File.Fault
import HeaderFacts.Json.Reader

/-!
# Dump files

A dump file is YAML if its name says so, and JSON otherwise.

Main definitions:

* `extensionOf?` — the extension of a file name.
* `Dump.ofText?`, `Dump.parse` — the dump that a text denotes.
* `Dump.load` — the dump of a file.
-/

namespace HeaderFacts

/-- The part of a file name after its last dot. A dot that begins the name starts no extension. -/
def extensionOf? (path : String) : Option String :=
  let name := (path.toList.reverse.takeWhile (· != '/')).reverse
  let extension := (name.reverse.takeWhile (· != '.')).reverse
  if extension.length + 1 < name.length then some (String.ofList extension) else none

/-- Whether a file name says that the file is YAML. -/
def isYamlName (path : String) : Bool :=
  match extensionOf? path with
  | some extension => extension == "yaml" || extension == "yml"
  | none => false

namespace Dump

/-- The dump that a text denotes. -/
def ofText? (isYaml : Bool) (text : String) : Option Dump :=
  if isYaml then (Yaml.Node.ofText? text).bind ofYaml? else (Json.ofText? text).bind ofJson?

/-- Reads the text of a dump. What is wrong with a text that denotes none is not said in detail. -/
def parse (isYaml : Bool) (text : String) : Except String Dump :=
  match ofText? isYaml text with
  | none => .error "<parse error>"
  | some dump => .ok dump

/-- The dump of a file, with some way to read its text. -/
def load (path : String) (content : FileContent)
    (parse : Bool → String → Except String Dump := parse) : Except QueryError Dump :=
  match textOf content with
  | .error fault => .error (.load path fault.message)
  | .ok text => (parse (isYamlName path) text).mapError (.load path)

end Dump

end HeaderFacts

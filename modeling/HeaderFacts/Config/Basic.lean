import HeaderFacts.Config.KeyPath
import HeaderFacts.File.Fault
import HeaderFacts.Template.Render
import HeaderFacts.Toml.Document

/-!
# Configurations

The markers of templates, the directories in which headers are looked up, and the definitions of the
flag `-A`. They are read from the defaults with the layers of the user laid over them: first files,
then single settings.

Main definitions:

* `Config` — a configuration.
* `Config.ofSetting?` — the configuration that settings give.
* `Config.load` — the configuration of some layers.
* `Engine.ofConfig` — the engine of a configuration.
-/

namespace HeaderFacts

/-- A configuration. -/
structure Config where
  markers : Markers := {}
  /-- The directories in which relative headers are looked up. -/
  includePaths : List String := []
  /-- The definitions of `-A` as they are written. -/
  largeFileDefines : List String := []
  deriving DecidableEq, Repr

/-- Why a configuration cannot be loaded. -/
inductive ConfigError where
  | unreadable (fault : FileFault)
  | notToml
  | badKey (key : String)
  | badSettings
  deriving DecidableEq, Repr

/-- The wording of an error. -/
def ConfigError.message : ConfigError → String
  | unreadable fault => "the file could not be read: " ++ fault.message
  | notToml => "the file is not valid TOML"
  | badKey key => s!"'{key}' is not a key"
  | badSettings => "a setting is missing or has the wrong type"

/-! ## Reading settings -/

namespace Setting

/-- The text of a setting. -/
def asText? : Setting → Option String
  | text value => some value
  | _ => none

/-- The elements of a list, each read by `f`. -/
def asList? {α : Type} (f : Setting → Option α) : Setting → Option (List α)
  | list items => items.mapM f
  | _ => none

/-- The parts of a record with the given names: the members of a group, or the elements of a list in
the order of the names. Other members and elements do not count. -/
def record? (names : List String) : Setting → Option (List (Option Setting))
  | group members => some (names.map (List.lookup · members))
  | list items => some ((items.map some ++ names.map fun _ => none).take names.length)
  | _ => none

/-- The elements of a list that may be absent. -/
def orEmpty {α : Type} (f : Setting → Option α) : Option Setting → Option (List α)
  | none => some []
  | some s => s.asList? f

end Setting

/-- The inert region that a setting gives. -/
def InertRegion.ofSetting? (s : Setting) : Option InertRegion := do
  match ← s.record? ["open", "close"] with
  | [opening, closing] =>
    return { opening := ← (← opening).asText?, closing := ← (← closing).asText? }
  | _ => none

/-- The markers that a setting gives. -/
def Markers.ofSetting? (s : Setting) : Option Markers := do
  match ← s.record? ["block_start", "block_end", "continuation", "inert"] with
  | [blockStart, blockEnd, continuation, inert] =>
    return { blockStart := ← (← blockStart).asText?
             blockEnd := ← (← blockEnd).asText?
             continuation := ← (← continuation).asText?
             inert := ← Setting.orEmpty InertRegion.ofSetting? inert }
  | _ => none

namespace Config

/-- The configuration that settings give. -/
def ofSetting? (s : Setting) : Option Config := do
  let markers ← Markers.ofSetting? (← s.member? "template")
  match ← (← s.member? "query").record? ["include_paths", "largefile_defines"] with
  | [includePaths, largeFileDefines] =>
    return { markers
             includePaths := ← Setting.orEmpty Setting.asText? includePaths
             largeFileDefines := ← Setting.orEmpty Setting.asText? largeFileDefines }
  | _ => none

/-! ## Layers -/

/-- The settings that hold where no layer says otherwise. -/
def defaults : Setting :=
  .group
    [("template", .group
      [("block_start", .text "@@extract"), ("block_end", .text "@@end"),
        ("continuation", .text "\\"),
        ("inert", .list [.group [("open", .text "/*"), ("close", .text "*/")]])]),
     ("query", .group
      [("include_paths", .list []),
        ("largefile_defines",
          .list [.text "_LARGEFILE64_SOURCE=1", .text "_FILE_OFFSET_BITS=64"])])]

/-- Settings with the entries of a document written over them. -/
def addDocument (settings : Setting) (document : List (String × Toml)) : Setting :=
  document.foldl (fun s (key, value) => value.toSetting.write (KeyPath.ofKey key) (some s)) settings

/-- Settings with a file written over them. -/
def addFile (settings : Setting) (file : FileContent) : Except ConfigError Setting := do
  let text ← (textOf file).mapError .unreadable
  match Toml.ofText? text with
  | none => throw .notToml
  | some document => return addDocument settings document

/-- Settings with a single one written over them. -/
def addOverride (settings : Setting) (override : String × Setting) : Except ConfigError Setting :=
  match KeyPath.ofText? override.1 with
  | none => .error (.badKey override.1)
  | some path => .ok (override.2.write path (some settings))

/-- The configuration of files over the defaults, and of single settings over the files. -/
def load (files : List FileContent) (overrides : List (String × Setting)) :
    Except ConfigError Config := do
  let settings ← files.foldlM addFile defaults
  let settings ← overrides.foldlM addOverride settings
  match ofSetting? settings with
  | none => throw .badSettings
  | some config => return config

/-- The definitions of `-A`. -/
def largeFilePairs (c : Config) : Except ExtractionError (List Define) :=
  c.largeFileDefines.mapM Define.ofText

end Config

/-- The engine of a configuration. -/
def Engine.ofConfig (service : Service) (c : Config) : Except ExtractionError Engine := do
  return { service, markers := c.markers, largeFile := ← c.largeFilePairs }

end HeaderFacts

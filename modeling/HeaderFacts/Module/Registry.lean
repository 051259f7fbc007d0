import HeaderFacts.Module.Table
import HeaderFacts.Module.Variant

/-!
# Registries

The modules that directives can name, by their names. A module takes the place of an earlier one of
its name.

Main definitions:

* `Registry` — modules by name.
* `Registry.standard` — the built-in modules.
* `Registry.evaluate` — carries out a directive.
-/

namespace HeaderFacts

/-- The built-in modules. -/
def ExtractionModule.builtins : List ExtractionModule :=
  [sizeOf, property, macroTable, structTokens, opaqueType, fingerprint, enumTable, dialect]

/-- Modules by name. -/
structure Registry where
  byName : KeyMap ExtractionModule := .empty

namespace Registry

/-- Adds a module, instead of one that has its name. -/
def register (r : Registry) (m : ExtractionModule) : Registry :=
  ⟨r.byName.insert m.name m⟩

/-- The registry of some modules, registered in their order. -/
def ofModules (modules : List ExtractionModule) : Registry :=
  modules.foldl register {}

/-- The registry of the built-in modules. -/
def standard : Registry :=
  ofModules ExtractionModule.builtins

/-- The module of a name. -/
def get? (r : Registry) (name : String) : Option ExtractionModule :=
  r.byName.get? name

/-- Whether a name has a module. -/
def has (r : Registry) (name : String) : Bool :=
  r.byName.contains name

/-- The modules in the order of their names. -/
def modules (r : Registry) : List ExtractionModule :=
  r.byName.values

/-- Carries out a directive: finds its module, checks what that requires, opens a session and makes
rows of it. -/
def evaluate (r : Registry) (service : Service) (largeFile : List Define) (d : Directive) :
    Except ExtractionError Emission := do
  match r.get? d.moduleName with
  | none => throw (.malformed (.unknownModule d.moduleName))
  | some m =>
    -- A directive that its module refuses is refused before any header is looked up.
    m.validate d
    let session ← (service (d.request largeFile)).mapError ExtractionError.query
    m.evaluate session d

/-- Carries out the directive of a line. -/
def evaluateLine (r : Registry) (service : Service) (largeFile : List Define) (line : String) :
    Except ExtractionError Emission := do
  r.evaluate service largeFile (← Directive.ofText line)

end Registry

end HeaderFacts

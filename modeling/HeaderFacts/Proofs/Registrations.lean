import HeaderFacts.Proofs.Evaluation
import HeaderFacts.Proofs.KeyMaps
import Mathlib.Data.List.Basic

/-!
# Histories of registrations

A registry begins without modules or with the built-in ones, and modules are registered one after
the other. Whatever the history, a name stands for the module that was registered last under it, or
else for the built-in one. The list of the modules holds each of these once, in the order of their
names, and a directive is carried out by the module that its name stands for. Nothing else of a
history is left: two histories with the same last registration of every name give one registry.

Main definitions:

* `Registry.Origin`, `Registry.Origin.after` — how a registry begins, and what it becomes.
* `Registry.LastRegistered`, `Registry.StandsFor` — the last registration of a name, and the module
  that the name stands for.
* `Registry.Keyed` — every module is kept under its own name.
* `ExtractionModule.carryOut` — what a module does for a directive.
* `Registry.Reflects` — what a registry shows of its history.

Main results:

* `Keyed.register`, `keyed_after` — the invariant, for one registration and for a history.
* `get?_after_iff` — a name is looked up as the module that it stands for.
* `after_eq_of_lastRegistered` — only the last registrations matter.
* `reflects_history` — what a registry shows after a history.
-/

namespace HeaderFacts

/-- What a module does for a directive: it checks the directive, opens a session for it and makes
rows of that. -/
def ExtractionModule.carryOut (m : ExtractionModule) (service : Service) (largeFile : List Define)
    (d : Directive) : Except ExtractionError Emission := do
  m.validate d
  let session ← (service (d.request largeFile)).mapError ExtractionError.query
  m.evaluate session d

namespace Registry

/-! ## Histories -/

/-- How a registry begins. -/
inductive Origin where
  /-- Without modules. -/
  | empty
  /-- With the built-in modules. -/
  | standard
  deriving DecidableEq, Repr

/-- The modules that a registry begins with. -/
def Origin.modules : Origin → List ExtractionModule
  | .empty => []
  | .standard => ExtractionModule.builtins

/-- The registry before anything is registered. -/
def Origin.registry : Origin → Registry
  | .empty => {}
  | .standard => Registry.standard

/-- The registry after some modules have been registered, one after the other. -/
def Origin.after (origin : Origin) (history : List ExtractionModule) : Registry :=
  history.foldl register origin.registry

/-- A module is the last one that was registered under a name. -/
def LastRegistered (history : List ExtractionModule) (name : String) (m : ExtractionModule) : Prop :=
  ∃ before after, history = before ++ m :: after ∧ m.name = name ∧
    ∀ later ∈ after, later.name ≠ name

/-- The module that a name stands for: the one registered last under it, or else the built-in. -/
inductive StandsFor (origin : Origin) (history : List ExtractionModule) (name : String)
    (m : ExtractionModule) : Prop
  | registered (h : LastRegistered history name m)
  | builtIn (hNone : ∀ other ∈ history, other.name ≠ name) (hMem : m ∈ origin.modules)
      (hName : m.name = name)

variable {origin : Origin} {history : List ExtractionModule} {name : String} {m : ExtractionModule}
variable {r : Registry}

theorem lastRegistered_iff :
    LastRegistered history name m ↔ history.reverse.find? (fun m => m.name = name) = some m := by
  rw [find?_reverse_eq_some_iff]
  simp [LastRegistered]

theorem not_registered_iff :
    (∀ other ∈ history, other.name ≠ name) ↔
      history.reverse.find? (fun m => m.name = name) = none := by
  simp

/-! ## Looking up -/

theorem get?_origin_iff : origin.registry.get? name = some m ↔ m ∈ origin.modules ∧ m.name = name := by
  cases origin with
  | empty => simp [Origin.registry, Origin.modules, get?]
  | standard =>
    constructor
    · intro h
      exact of_get?_standard h
    · rintro ⟨hMem, rfl⟩
      exact get?_standard_of_mem hMem

/-- After a history a name is looked up as the module that it stands for. -/
theorem get?_after_iff :
    (origin.after history).get? name = some m ↔ StandsFor origin history name m := by
  rw [Origin.after, get?_foldl_register]
  -- the search from the end finds the last registration, if there is one
  cases hLast : history.reverse.find? (fun m => m.name = name) with
  | some last =>
    rw [Option.some_or]
    constructor
    · rintro ⟨rfl⟩
      exact .registered (lastRegistered_iff.2 hLast)
    · intro h
      cases h with
      | registered h => rw [← hLast, lastRegistered_iff.1 h]
      | builtIn hNone _ _ =>
        rw [not_registered_iff.1 hNone] at hLast
        cases hLast
  | none =>
    rw [Option.none_or, get?_origin_iff]
    constructor
    · rintro ⟨hMem, hName⟩
      exact .builtIn (not_registered_iff.2 hLast) hMem hName
    · intro h
      cases h with
      | registered h =>
        rw [lastRegistered_iff.1 h] at hLast
        cases hLast
      | builtIn _ hMem hName => exact ⟨hMem, hName⟩

theorem StandsFor.unique {other : ExtractionModule} (h : StandsFor origin history name m)
    (hOther : StandsFor origin history name other) : m = other :=
  Option.some.inj ((get?_after_iff.2 h).symm.trans (get?_after_iff.2 hOther))

/-- A name stands for a module if and only if it is the name of a module of the start or of the
history. -/
theorem exists_standsFor_iff :
    (∃ m, StandsFor origin history name m) ↔
      (∃ m ∈ origin.modules, m.name = name) ∨ ∃ m ∈ history, m.name = name := by
  constructor
  · rintro ⟨m, h⟩
    cases h with
    | registered h =>
      obtain ⟨before, after, rfl, hName, -⟩ := h
      exact Or.inr ⟨m, by simp, hName⟩
    | builtIn _ hMem hName => exact Or.inl ⟨m, hMem, hName⟩
  · intro h
    cases hLast : history.reverse.find? (fun m => m.name = name) with
    | some last => exact ⟨last, .registered (lastRegistered_iff.2 hLast)⟩
    | none =>
      have hNone := not_registered_iff.2 hLast
      rcases h with ⟨m, hMem, hName⟩ | ⟨m, hMem, hName⟩
      · exact ⟨m, .builtIn hNone hMem hName⟩
      · exact absurd hName (hNone m hMem)

/-- Only the last registration of each name matters. -/
theorem after_eq_of_lastRegistered {other : List ExtractionModule}
    (h : ∀ name m, LastRegistered history name m ↔ LastRegistered other name m) :
    origin.after history = origin.after other := by
  have hLast (name : String) : history.reverse.find? (fun m => m.name = name) =
      other.reverse.find? (fun m => m.name = name) := by
    apply Option.ext
    intro m
    rw [← lastRegistered_iff, ← lastRegistered_iff]
    exact h name m
  -- maps are equal if their lookups are, so nothing of the order is left in a registry
  have hMaps : (origin.after history).byName = (origin.after other).byName := by
    apply KeyMap.ext_get?
    intro name
    show (origin.after history).get? name = (origin.after other).get? name
    rw [Origin.after, Origin.after, get?_foldl_register, get?_foldl_register, hLast]
  exact congrArg Registry.mk hMaps

/-! ## Listing -/

/-- Every module is kept under its own name. -/
def Keyed (r : Registry) : Prop :=
  ∀ e ∈ r.byName.entries, e.1 = e.2.name

/-- A registration keeps every module under its own name. -/
theorem Keyed.register (h : Keyed r) (m : ExtractionModule) : Keyed (r.register m) := by
  intro e hEntry
  rcases KeyMap.mem_insertEntry hEntry with rfl | hOld
  · rfl
  · exact h e hOld

theorem keyed_foldl_register (h : Keyed r) (history : List ExtractionModule) :
    Keyed (history.foldl Registry.register r) := by
  induction history generalizing r with
  | nil => exact h
  | cons m rest ih => exact ih (h.register m)

/-- After every history each module is kept under its own name. -/
theorem keyed_after (origin : Origin) (history : List ExtractionModule) :
    Keyed (origin.after history) := by
  have hEmpty : Keyed {} := fun e hEntry => absurd hEntry (List.not_mem_nil)
  cases origin with
  | empty => exact keyed_foldl_register hEmpty history
  | standard =>
    -- the built-in modules are registered first
    exact keyed_foldl_register (keyed_foldl_register hEmpty _) history

/-- The modules of a name in the list are the one that is looked up under it. -/
theorem Keyed.filter_modules (h : Keyed r) (name : String) :
    r.modules.filter (fun m => m.name = name) = (r.get? name).toList := by
  have hKeys : r.byName.entries.filter (fun e => e.2.name = name) =
      r.byName.entries.filter (fun e => e.1 = name) := by
    apply List.filter_congr
    intro e hEntry
    rw [h e hEntry]
  calc r.modules.filter (fun m => m.name = name)
      = (r.byName.entries.filter fun e => e.2.name = name).map Prod.snd := List.filter_map ..
    _ = ((r.get? name).toList.map (Prod.mk name)).map Prod.snd := by
        rw [hKeys, KeyMap.filter_entries]
        rfl
    _ = (r.get? name).toList := by
        rw [List.map_map]
        exact List.map_id _

/-- Modules are listed in strictly increasing order of the bytes of their names. -/
theorem Keyed.increasing (h : Keyed r) :
    r.modules.Pairwise fun m n => Text.bytes m.name < Text.bytes n.name := by
  have hNames : r.modules.map (·.name) = r.byName.keys := by
    rw [modules, KeyMap.values, List.map_map]
    exact List.map_congr_left fun e hEntry => (h e hEntry).symm
  have hKeys := r.byName.keys_increasing
  rw [← hNames, List.pairwise_map] at hKeys
  exact hKeys

/-! ## Carrying out -/

theorem evaluate_of_get? (h : r.get? name = some m) {d : Directive} (hName : d.moduleName = name)
    (service : Service) (largeFile : List Define) :
    r.evaluate service largeFile d = m.carryOut service largeFile d := by
  simp only [evaluate, hName, h]
  rfl

/-! ## What is shown of a history -/

/-- What a registry shows of its history, whatever is asked of it. -/
structure Reflects (origin : Origin) (history : List ExtractionModule) (r : Registry) : Prop where
  /-- It has the names of its start and those that were registered. -/
  has_iff : ∀ name, r.has name = true ↔
    (∃ m ∈ origin.modules, m.name = name) ∨ ∃ m ∈ history, m.name = name
  /-- It looks a name up as the module that the name stands for. -/
  get?_iff : ∀ name m, r.get? name = some m ↔ StandsFor origin history name m
  /-- Of each name it lists the module that is looked up, and no other. -/
  listed : ∀ name, r.modules.filter (fun m => m.name = name) = (r.get? name).toList
  /-- It lists its modules in the order of the bytes of their names. -/
  increasing : r.modules.Pairwise fun m n => Text.bytes m.name < Text.bytes n.name
  /-- A directive is carried out by the module that its name stands for. -/
  dispatched : ∀ (d : Directive) m, StandsFor origin history d.moduleName m →
    ∀ service largeFile, r.evaluate service largeFile d = m.carryOut service largeFile d
  /-- A directive whose name stands for no module is malformed. -/
  rejected : ∀ d : Directive, (∀ m ∈ origin.modules ++ history, m.name ≠ d.moduleName) →
    ∀ service largeFile, ∃ err, r.evaluate service largeFile d = .error err ∧
      err.kind = "MalformedDirective" ∧
        err.message = "malformed directive: " ++ ("unknown module '" ++ d.moduleName ++ "'")

theorem has_after_iff :
    (origin.after history).has name = true ↔
      (∃ m ∈ origin.modules, m.name = name) ∨ ∃ m ∈ history, m.name = name := by
  rw [← exists_standsFor_iff, has, KeyMap.contains, Option.isSome_iff_exists]
  exact exists_congr fun m => get?_after_iff

theorem get?_after_eq_none (h : ∀ m ∈ origin.modules ++ history, m.name ≠ name) :
    (origin.after history).get? name = none := by
  rw [Option.eq_none_iff_forall_ne_some]
  intro m hGet
  have hNamed := exists_standsFor_iff.1 ⟨m, get?_after_iff.1 hGet⟩
  rcases hNamed with ⟨m, hMem, hName⟩ | ⟨m, hMem, hName⟩
  · exact h m (List.mem_append_left _ hMem) hName
  · exact h m (List.mem_append_right _ hMem) hName

/-- **Histories.** After any sequence of registrations a registry shows for each name the module
that was registered last under it, or else the built-in one: when it is asked for the name, in its
list, and in what it makes of directives. Another history with the same last registrations gives the
same registry, whatever its order. -/
theorem reflects_history (origin : Origin) (history : List ExtractionModule) :
    Reflects origin history (origin.after history) ∧
      ∀ other, (∀ name m, LastRegistered history name m ↔ LastRegistered other name m) →
        origin.after history = origin.after other := by
  have hKeyed := keyed_after origin history
  refine ⟨?reflects, fun other h => after_eq_of_lastRegistered h⟩
  case reflects =>
    refine ⟨fun name => has_after_iff, fun name m => get?_after_iff, hKeyed.filter_modules,
      hKeyed.increasing, ?dispatched, ?rejected⟩
    case dispatched =>
      intro d m h service largeFile
      exact evaluate_of_get? (get?_after_iff.2 h) rfl service largeFile
    case rejected =>
      intro d h service largeFile
      exact ⟨_, evaluate_of_unknown (get?_after_eq_none h) service, rfl, rfl⟩

/-- Two histories that agree in the last registration of each name, of which one replaces a module
that the other never had. -/
theorem reflects_history_reordered :
    let replaced := ExtractionModule.targetTriple "zz" .exactlyOne
    let accented := ExtractionModule.targetTriple "é" .noDeclarations
    let last := ExtractionModule.targetTriple "zz" .noDeclarations
    let size := ExtractionModule.targetTriple "sizeof" .enumerateAll
    let history := [replaced, size, last, accented]
    (∀ name m, LastRegistered history name m ↔ LastRegistered [accented, last, size] name m) ∧
      Origin.standard.after history = Origin.standard.after [accented, last, size] ∧
      (Origin.standard.after history).modules.map (·.name) =
        ["dialect", "enum", "fingerprint", "macro", "opaque", "property", "sizeof", "struct", "zz",
          "é"] ∧
      ((Origin.standard.after history).get? "sizeof").map (·.cardinality) = some .enumerateAll := by
  intro replaced accented last size history
  have hSame : ∀ name m, LastRegistered history name m ↔
      LastRegistered [accented, last, size] name m := by
    intro name m
    rw [lastRegistered_iff, lastRegistered_iff]
    show [accented, last, size, replaced].find? _ = _ ↔ [size, last, accented].find? _ = _
    have hNames : accented.name = "é" ∧ last.name = "zz" ∧ size.name = "sizeof" ∧
        replaced.name = "zz" := ⟨rfl, rfl, rfl, rfl⟩
    by_cases hAccented : "é" = name
    · subst hAccented
      simp [hNames]
    · by_cases hSize : "sizeof" = name
      · subst hSize
        simp [hNames]
      · by_cases hLast : "zz" = name <;> simp [hNames, hAccented, hSize, hLast]
  obtain ⟨-, hEqual⟩ := reflects_history .standard history
  exact ⟨hSame, hEqual _ hSame, by decide +kernel, by decide +kernel⟩

end Registry

end HeaderFacts

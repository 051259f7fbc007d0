import HeaderFacts.Dump.Catalog
import HeaderFacts.Module.Registry

/-!
# Evaluating a directive

The steps before a module makes rows: its name is looked up, it checks the directive, and the
headers are resolved and opened.

Main definitions:

* `Catalog.declarations` — the declarations of some headers.
* `Catalog.session` — the session of a directive.

Main results:

* `ExtractionModule.builtins_cases` — what holds of each of the eight modules holds of all.
* `find?_reverse_eq_some_iff` — a search from the end of a list finds the last member.
* `Registry.get?_foldl_register` — the module of a name is the last that is registered under it.
* `Catalog.openSession_of_resolved` — the session of headers that can all be found.
* `Registry.evaluate_of_session` — what is left to do once a session is open.
* `Registry.steps_of_evaluate` — what has been done before an emission.
* `Registry.evaluate_builtin` — the emission of a built-in module.
* `Registry.of_evaluate_builtin` — what has been the case where a built-in module makes one.
-/

namespace HeaderFacts

/-! ## Built-in modules -/

/-- A built-in module is one of the eight. -/
@[elab_as_elim] theorem ExtractionModule.builtins_cases
    {motive : (m : ExtractionModule) → m ∈ builtins → Prop}
    (sizeOf : ∀ h, motive .sizeOf h) (property : ∀ h, motive .property h)
    (macroTable : ∀ h, motive .macroTable h) (structTokens : ∀ h, motive .structTokens h)
    (opaqueType : ∀ h, motive .opaqueType h) (fingerprint : ∀ h, motive .fingerprint h)
    (enumTable : ∀ h, motive .enumTable h) (dialect : ∀ h, motive .dialect h)
    (m : ExtractionModule) (hBuiltin : m ∈ builtins) : motive m hBuiltin := by
  have hCases := hBuiltin
  simp only [builtins, List.mem_cons, List.not_mem_nil, or_false] at hCases
  rcases hCases with rfl | rfl | rfl | rfl | rfl | rfl | rfl | rfl
  · exact sizeOf hBuiltin
  · exact property hBuiltin
  · exact macroTable hBuiltin
  · exact structTokens hBuiltin
  · exact opaqueType hBuiltin
  · exact fingerprint hBuiltin
  · exact enumTable hBuiltin
  · exact dialect hBuiltin

/-! ## Last members -/

/-- What a search from the end of a list finds is the last member with a property. -/
theorem find?_reverse_eq_some_iff {α : Type} {p : α → Bool} {l : List α} {x : α} :
    l.reverse.find? p = some x ↔
      ∃ before after, l = before ++ x :: after ∧ p x = true ∧ ∀ later ∈ after, p later = false := by
  rw [List.find?_eq_some_iff_append]
  constructor
  · -- what the search has passed over stands behind what it finds
    rintro ⟨hFound, after, before, hSplit, hAfter⟩
    have hList : l = before.reverse ++ x :: after.reverse := by
      simpa using congrArg List.reverse hSplit
    exact ⟨before.reverse, after.reverse, hList, hFound,
      fun later hLater => by simpa using hAfter later (List.mem_reverse.1 hLater)⟩
  · rintro ⟨before, after, rfl, hFound, hAfter⟩
    exact ⟨hFound, after.reverse, before.reverse, by simp, by simpa using hAfter⟩

/-! ## Looking up modules -/

namespace Registry

/-- The module of a name is the last that is registered under it. -/
theorem get?_foldl_register (modules : List ExtractionModule) (r : Registry) (name : String) :
    (modules.foldl register r).get? name =
      (modules.reverse.find? fun m => m.name = name).or (r.get? name) := by
  induction modules generalizing r with
  | nil => simp
  | cons m rest ih =>
    have hRegister : (r.register m).get? name =
        if m.name = name then some m else r.get? name := by
      rw [get?, register, KeyMap.get?_insert]
      rfl
    rw [List.foldl_cons, ih, hRegister, List.reverse_cons, List.find?_append, Option.or_assoc]
    congr 1
    by_cases h : m.name = name <;> simp [h]

/-- Every built-in module is found under its name. -/
theorem get?_standard_of_mem {m : ExtractionModule} (h : m ∈ ExtractionModule.builtins) :
    standard.get? m.name = some m := by
  rw [standard, ofModules, get?_foldl_register]
  cases m, h using ExtractionModule.builtins_cases <;> rfl

/-- A module that is found under a name is the built-in one of that name. -/
theorem of_get?_standard {name : String} {m : ExtractionModule} (h : standard.get? name = some m) :
    m ∈ ExtractionModule.builtins ∧ m.name = name := by
  have hEmpty : ({} : Registry).get? name = none := rfl
  rw [standard, ofModules, get?_foldl_register, hEmpty, Option.or_none] at h
  have hMem := List.mem_of_find?_eq_some h
  have hSame := List.find?_some h
  exact ⟨List.mem_reverse.1 hMem, of_decide_eq_true hSame⟩

end Registry

/-! ## Opening sessions -/

namespace Catalog

variable (c : Catalog)

/-- The declarations of some headers, each header where it is first named. A header that cannot be
found has none. -/
def declarations (headers : List String) : List Decl :=
  (headers.filterMap c.resolve?).eraseDups.flatMap fun path => (c.dump.headers.get? path).getD []

theorem resolveAll_of_resolved {headers : List String}
    (h : ∀ header ∈ headers, (c.resolve? header).isSome) :
    c.resolveAll headers = .ok (headers.filterMap c.resolve?) := by
  induction headers with
  | nil => rfl
  | cons header rest ih =>
    obtain ⟨path, hPath⟩ := Option.isSome_iff_exists.1 (h header List.mem_cons_self)
    have hRest := ih fun other hOther => h other (List.mem_cons_of_mem header hOther)
    simp only [resolveAll, hPath, hRest, List.filterMap_cons]
    rfl

theorem resolved_of_resolveAll {headers paths : List String} (h : c.resolveAll headers = .ok paths) :
    ∀ header ∈ headers, (c.resolve? header).isSome := by
  induction headers generalizing paths with
  | nil => simp
  | cons header rest ih =>
    rw [resolveAll] at h
    cases hHeader : c.resolve? header with
    | none =>
      rw [hHeader] at h
      cases h
    | some path =>
      rw [hHeader] at h
      cases hRest : c.resolveAll rest with
      | error err =>
        rw [hRest] at h
        cases h
      | ok others => exact List.forall_mem_cons.2 ⟨by simp [hHeader], ih hRest⟩

/-- The first header that cannot be found decides the error. -/
theorem resolveAll_of_missing {headers : List String} {missing : String}
    (h : headers.find? (fun header => (c.resolve? header).isNone) = some missing) :
    c.resolveAll headers = .error (.headerNotFound missing) := by
  induction headers with
  | nil => cases h
  | cons header rest ih =>
    rw [List.find?_cons] at h
    cases hHeader : c.resolve? header with
    | none =>
      rw [hHeader] at h
      cases h
      simp only [resolveAll, hHeader]
    | some path =>
      rw [hHeader] at h
      simp only [resolveAll, hHeader, ih h]
      rfl

/-- A session opens only for headers that can all be found. -/
theorem resolved_of_openSession {r : Request} {s : Session} (h : c.openSession r = .ok s) :
    ∀ header ∈ r.headers, (c.resolve? header).isSome := by
  rw [openSession] at h
  cases hPaths : c.resolveAll r.headers with
  | error err =>
    rw [hPaths] at h
    cases h
  | ok paths => exact c.resolved_of_resolveAll hPaths

theorem openSession_of_missing {r : Request} {missing : String}
    (h : r.headers.find? (fun header => (c.resolve? header).isNone) = some missing) :
    c.openSession r = .error (.headerNotFound missing) := by
  rw [openSession, c.resolveAll_of_missing h]
  rfl

/-- The session of headers that can all be found: their declarations that are visible. -/
theorem openSession_of_resolved {r : Request}
    (h : ∀ header ∈ r.headers, (c.resolve? header).isSome) :
    c.openSession r =
      .ok { target := c.dump.target, decls := (c.declarations r.headers).filter r.shows } := by
  rw [openSession, c.resolveAll_of_resolved h]
  rfl

end Catalog

/-! ## From a directive to its module -/

/-- The session of a directive whose headers can all be found. -/
def Catalog.session (c : Catalog) (largeFile : List Define) (d : Directive) : Session :=
  { target := c.dump.target
    decls := (c.declarations d.headers).filter (d.request largeFile).shows }

theorem Registry.evaluate_of_unknown {r : Registry} {largeFile : List Define} {d : Directive}
    (hUnknown : r.get? d.moduleName = none) (service : Service) :
    r.evaluate service largeFile d = .error (.malformed (.unknownModule d.moduleName)) := by
  simp only [evaluate, hUnknown]
  rfl

/-- A directive that its module refuses is refused whatever its headers hold. -/
theorem Registry.evaluate_of_refused {r : Registry} {largeFile : List Define} {d : Directive}
    {m : ExtractionModule} {err : ExtractionError} (hName : r.get? d.moduleName = some m)
    (hRefused : m.validate d = .error err) (service : Service) :
    r.evaluate service largeFile d = .error err := by
  simp only [evaluate, hName, hRefused]
  rfl

/-- Once the module of a directive has been found and has checked it, what is left is to open a
session and to make rows of it. -/
theorem Registry.evaluate_of_checked {r : Registry} {service : Service} {largeFile : List Define}
    {d : Directive} {m : ExtractionModule} (hName : r.get? d.moduleName = some m)
    (hValid : m.validate d = .ok ()) :
    r.evaluate service largeFile d =
      ((service (d.request largeFile)).mapError ExtractionError.query) >>= (m.evaluate · d) := by
  simp only [evaluate, hName, hValid]
  rfl

/-- Once the module of a directive has been found, has checked it and has a session, it makes the
emission. -/
theorem Registry.evaluate_of_session {r : Registry} {service : Service} {largeFile : List Define}
    {d : Directive} {m : ExtractionModule} {s : Session} (hName : r.get? d.moduleName = some m)
    (hValid : m.validate d = .ok ()) (hSession : service (d.request largeFile) = .ok s) :
    r.evaluate service largeFile d = m.evaluate s d := by
  rw [evaluate_of_checked hName hValid, hSession]
  rfl

/-- The steps before an emission have all succeeded. -/
theorem Registry.steps_of_evaluate {r : Registry} {service : Service} {largeFile : List Define}
    {d : Directive} {emission : Emission} (h : r.evaluate service largeFile d = .ok emission) :
    ∃ m s, r.get? d.moduleName = some m ∧ m.validate d = .ok () ∧
      service (d.request largeFile) = .ok s ∧ m.evaluate s d = .ok emission := by
  rw [evaluate] at h
  cases hName : r.get? d.moduleName with
  | none =>
    rw [hName] at h
    cases h
  | some m =>
    rw [hName] at h
    cases hValid : m.validate d with
    | error err =>
      simp only [hValid] at h
      cases h
    | ok _ =>
      cases hSession : service (d.request largeFile) with
      | error err =>
        simp only [hValid, hSession] at h
        cases h
      | ok s =>
        simp only [hValid, hSession] at h
        exact ⟨m, s, rfl, hValid, rfl, h⟩

/-- A built-in module makes the emission of a directive that it has checked and whose headers can
all be found. -/
theorem Registry.evaluate_builtin {c : Catalog} {largeFile : List Define} {d : Directive}
    {m : ExtractionModule} (hBuiltin : m ∈ ExtractionModule.builtins) (hName : d.moduleName = m.name)
    (hValid : m.validate d = .ok ())
    (hResolved : ∀ header ∈ d.headers, (c.resolve? header).isSome) :
    standard.evaluate c.openSession largeFile d = m.evaluate (c.session largeFile d) d := by
  have hModule : standard.get? d.moduleName = some m := by
    rw [hName]
    exact get?_standard_of_mem hBuiltin
  exact evaluate_of_session hModule hValid (c.openSession_of_resolved hResolved)

/-- Where a built-in module has made an emission, it has checked the directive, and the emission is
what it makes of the session of the headers, which can all be found. -/
theorem Registry.of_evaluate_builtin {c : Catalog} {largeFile : List Define} {d : Directive}
    {m : ExtractionModule} {emission : Emission} (hBuiltin : m ∈ ExtractionModule.builtins)
    (hName : d.moduleName = m.name)
    (hOk : standard.evaluate c.openSession largeFile d = .ok emission) :
    m.validate d = .ok () ∧ (∀ header ∈ d.headers, (c.resolve? header).isSome) ∧
      m.evaluate (c.session largeFile d) d = .ok emission := by
  obtain ⟨other, s, hModule, hValid, hSession, -⟩ := steps_of_evaluate hOk
  rw [hName, get?_standard_of_mem hBuiltin] at hModule
  obtain rfl : m = other := Option.some.inj hModule
  have hResolved : ∀ header ∈ d.headers, (c.resolve? header).isSome :=
    c.resolved_of_openSession hSession
  rw [evaluate_builtin hBuiltin hName hValid hResolved] at hOk
  exact ⟨hValid, hResolved, hOk⟩

end HeaderFacts

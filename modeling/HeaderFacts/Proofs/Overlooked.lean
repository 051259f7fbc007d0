import HeaderFacts.Proofs.Evaluation
import HeaderFacts.Proofs.Traversal
import Mathlib.Data.List.Basic

/-!
# Overlooked declarations

A directive sees the declarations that are visible under its definitions, that pass its filters and,
for the modules that need a layout, that define something. All others have no influence: a dump with
one more of them, at whatever place of a header, gives the same rows or the same error. The two runs
take up the same declarations in the same order, so they agree on whatever a module makes of them.

Main definitions:

* `ExtractionModule.rules` — which declarations a module considers.
* `Overlooked` — a declaration that a directive does not see.
* `Catalog.withHeader` — a catalog with other declarations for a header.

Main results:

* `Session.gather_congr` — what is taken up depends on the accepted declarations alone.
* `ExtractionModule.evaluate_congr` — so does what a built-in module makes of a session.
* `Registry.evaluate_withHeader` — and what a directive comes to.
* `Registry.evaluate_insert_overlooked` — an overlooked declaration changes nothing.
-/

namespace HeaderFacts

/-! ## Sessions that look alike -/

/-- What is taken up of a session depends on the accepted declarations alone. -/
theorem Session.gather_congr {m : Type → Type} [Monad m] [LawfulMonad m] {σ : Type} {s t : Session}
    {o : Options} {rules : MatchRules} {take : σ → Decl → m σ} {start : σ}
    (h : s.decls.filter (rules.accepts o) = t.decls.filter (rules.accepts o)) :
    s.gather rules o take start = t.gather rules o take start := by
  rw [Session.gather_eq_foldlM, Session.gather_eq_foldlM, h]

namespace ExtractionModule

/-- Which declarations a module considers: those of its kinds, and only definitions if it takes a
fact from a single one. -/
def rules (m : ExtractionModule) : MatchRules :=
  { defaultKinds := m.defaultKinds, definitionsOnly := m.cardinality == .exactlyOne }

section Modules

variable {s t : Session} {d : Directive} {kinds : List NodeKind}
variable {render : Decl → Except ExtractionError String}

theorem emitOne_congr
    (h : s.decls.filter ((definitionsOf kinds).accepts d.options) =
      t.decls.filter ((definitionsOf kinds).accepts d.options)) :
    emitOne kinds render s d = emitOne kinds render t d := by
  rw [emitOne, emitOne, Session.exactlyOne, Session.exactlyOne, Session.gather_congr h]

theorem emitAll_congr
    (h : s.decls.filter (MatchRules.accepts ⟨kinds, false⟩ d.options) =
      t.decls.filter (MatchRules.accepts ⟨kinds, false⟩ d.options)) :
    emitAll kinds render s d = emitAll kinds render t d := by
  simp only [emitAll, Session.enumerateAll, Session.gather_congr h]

/-- What a built-in module makes of a session depends on its target and on the declarations that the
module considers; for a module that looks at none, on the target alone. -/
theorem evaluate_congr {m : ExtractionModule} (hBuiltin : m ∈ builtins)
    (hTarget : s.target = t.target)
    (hDecls : m.cardinality = .noDeclarations ∨
      s.decls.filter (m.rules.accepts d.options) = t.decls.filter (m.rules.accepts d.options)) :
    m.evaluate s d = m.evaluate t d := by
  cases m, hBuiltin using builtins_cases with
  | sizeOf => exact emitOne_congr (hDecls.resolve_left (by decide))
  | property => exact bind_congr fun p => emitOne_congr (hDecls.resolve_left (by decide))
  | macroTable => exact emitAll_congr (hDecls.resolve_left (by decide))
  | structTokens => exact emitOne_congr (hDecls.resolve_left (by decide))
  | opaqueType => exact emitOne_congr (hDecls.resolve_left (by decide))
  | fingerprint =>
    -- the platform does not depend on declarations
    simp only [fingerprint, hTarget]
  | enumTable => exact emitAll_congr (hDecls.resolve_left (by decide))
  | dialect =>
    have hSearch : s.decls.filter ((definitionsOf NodeKind.layoutKinds).accepts d.options) =
        t.decls.filter ((definitionsOf NodeKind.layoutKinds).accepts d.options) :=
      hDecls.resolve_left (by decide)
    simp only [dialect, dialectWith, Session.gather_congr hSearch]

end Modules

end ExtractionModule

/-! ## Other declarations for a header -/

namespace Catalog

/-- A catalog with other declarations for a header. -/
def withHeader (c : Catalog) (path : String) (decls : List Decl) : Catalog :=
  { c with dump := { c.dump with headers := c.dump.headers.insert path decls } }

variable {c : Catalog} {path : String} {old decls : List Decl}

theorem get?_withHeader (key : String) :
    (c.withHeader path decls).dump.headers.get? key =
      if path = key then some decls else c.dump.headers.get? key :=
  KeyMap.get?_insert ..

theorem resolve?_withHeader (hOld : c.dump.headers.get? path = some old) :
    (c.withHeader path decls).resolve? = c.resolve? := by
  have hContains : (c.withHeader path decls).dump.headers.contains = c.dump.headers.contains := by
    funext key
    rw [KeyMap.contains, KeyMap.contains, get?_withHeader]
    split
    · next hKey =>
      rw [← hKey, hOld]
      rfl
    · rfl
  funext header
  simp only [resolve?, hContains]
  rfl

theorem resolveAll_withHeader (hOld : c.dump.headers.get? path = some old) (headers : List String) :
    (c.withHeader path decls).resolveAll headers = c.resolveAll headers := by
  induction headers with
  | nil => rfl
  | cons header rest ih => rw [resolveAll, resolveAll, resolve?_withHeader hOld, ih]

/-- The declarations of some paths, of which only those with a property count, are the same if those
of the header are. -/
theorem filter_flatMap_withHeader {p : Decl → Bool} (hOld : c.dump.headers.get? path = some old)
    (hSame : decls.filter p = old.filter p) (paths : List String) :
    (paths.flatMap fun key => ((c.withHeader path decls).dump.headers.get? key).getD []).filter p =
      (paths.flatMap fun key => (c.dump.headers.get? key).getD []).filter p := by
  rw [List.filter_flatMap, List.filter_flatMap]
  congr 1
  funext key
  rw [get?_withHeader]
  -- no other header has changed
  split
  · next hKey => rw [← hKey, hOld, Option.getD_some, Option.getD_some, hSame]
  · rfl

end Catalog

/-- Whether a directive sees a declaration of its headers. -/
def Directive.sees (d : Directive) (largeFile : List Define) (rules : MatchRules) (x : Decl) : Bool :=
  rules.accepts d.options x && (d.request largeFile).shows x

/-- A directive comes to the same with other declarations for a header if it sees the same ones. -/
theorem Registry.evaluate_withHeader {c : Catalog} {largeFile : List Define} {d : Directive}
    {m : ExtractionModule} {path : String} {old decls : List Decl}
    (hBuiltin : m ∈ ExtractionModule.builtins) (hName : d.moduleName = m.name)
    (hOld : c.dump.headers.get? path = some old)
    (hSame : m.cardinality = .noDeclarations ∨
      decls.filter (d.sees largeFile m.rules) = old.filter (d.sees largeFile m.rules)) :
    standard.evaluate (c.withHeader path decls).openSession largeFile d =
      standard.evaluate c.openSession largeFile d := by
  simp only [evaluate, hName, get?_standard_of_mem hBuiltin]
  refine bind_congr fun _ => ?_
  -- both runs find the same paths, so they fail alike or both have a session
  cases hPaths : c.resolveAll (d.request largeFile).headers with
  | error err =>
    simp only [Catalog.openSession, Catalog.resolveAll_withHeader hOld, hPaths]
    rfl
  | ok paths =>
    simp only [Catalog.openSession, Catalog.resolveAll_withHeader hOld, hPaths]
    refine ExtractionModule.evaluate_congr hBuiltin rfl (hSame.imp_right fun hSeen => ?_)
    rw [List.filter_filter, List.filter_filter]
    exact Catalog.filter_flatMap_withHeader hOld hSeen paths.eraseDups

/-! ## One more declaration -/

/-- A declaration that a directive does not see: a definition hides it, it does not pass the filters,
it defines nothing although the module takes its fact from a definition, or the module looks at no
declarations. -/
inductive Overlooked (m : ExtractionModule) (largeFile : List Define) (d : Directive) (x : Decl) :
    Prop
  | hidden (h : (d.request largeFile).shows x = false)
  | refused (h : d.options.accepts m.defaultKinds x = false)
  | forward (hSole : m.cardinality = .exactlyOne) (h : x.definition = false)
  | unread (h : m.cardinality = .noDeclarations)

/-- Forward declarations are overlooked by five of the modules, and one looks at nothing. -/
theorem cardinality_builtins :
    ((ExtractionModule.builtins.filter (·.cardinality == .exactlyOne)).map (·.name) =
        ["sizeof", "property", "struct", "opaque", "dialect"]) ∧
      (ExtractionModule.builtins.filter (·.cardinality == .noDeclarations)).map (·.name) =
        ["fingerprint"] := by
  decide

theorem Overlooked.not_seen {m : ExtractionModule} {largeFile : List Define} {d : Directive} {x : Decl}
    (h : Overlooked m largeFile d x) :
    m.cardinality = .noDeclarations ∨ d.sees largeFile m.rules x = false := by
  cases h with
  | hidden h =>
    right
    rw [Directive.sees, h, Bool.and_false]
  | refused h =>
    right
    rw [Directive.sees, MatchRules.accepts, ExtractionModule.rules, h, Bool.and_false, Bool.false_and]
  | forward hSole h =>
    right
    rw [Directive.sees, MatchRules.accepts, ExtractionModule.rules, hSole, h]
    rfl
  | unread h => exact Or.inl h

/-- **No influence.** One more declaration in a header, at whatever place, changes nothing for a
directive that does not see it. -/
theorem Registry.evaluate_insert_overlooked {m : ExtractionModule}
    (hBuiltin : m ∈ ExtractionModule.builtins) {c : Catalog} {largeFile : List Define}
    {d : Directive} (hName : d.moduleName = m.name) {path : String} {before after : List Decl}
    (hHeader : c.dump.headers.get? path = some (before ++ after)) {x : Decl}
    (hOverlooked : Overlooked m largeFile d x) :
    standard.evaluate (c.withHeader path (before ++ x :: after)).openSession largeFile d =
      standard.evaluate c.openSession largeFile d := by
  refine evaluate_withHeader hBuiltin hName hHeader (hOverlooked.not_seen.imp_right fun hUnseen => ?_)
  rw [List.filter_append, List.filter_cons_of_neg (by rw [hUnseen]; decide), List.filter_append]

/-- A forward declaration without a known size, between a legacy type of its name and the variant. -/
theorem Registry.evaluate_insert_overlooked_forward :
    let legacy : Decl := (Decl.struct "stat").withLayout 88 4
    let variant : Decl := (Decl.struct "stat64").withLayout 96 4
    let unseen : Decl := ((Decl.struct "stat").withLayout (-1) 0).forward
    let c : Catalog :=
      { dump := ({ target := "i686-unknown-linux-gnu" } : Dump).addHeader "inc/stat.h"
          ([legacy] ++ [variant])
        includePaths := ["inc"] }
    let d : Directive :=
      { moduleName := "dialect"
        headers := ["stat.h"]
        options :=
          { patterns :=
              (NamePattern.ofSource? "stat").toList ++ (NamePattern.ofSource? "stat64").toList
            property := some .size } }
    .dialect ∈ ExtractionModule.builtins ∧
      c.dump.headers.get? "inc/stat.h" = some ([legacy] ++ [variant]) ∧
      Overlooked .dialect [] d unseen ∧
      standard.evaluate (c.withHeader "inc/stat.h" ([legacy] ++ unseen :: [variant])).openSession [] d =
        .ok { rows := ["96"], composite := false } := by
  intro legacy variant unseen c d
  have hBuiltin : .dialect ∈ ExtractionModule.builtins := by simp [ExtractionModule.builtins]
  have hHeader : c.dump.headers.get? "inc/stat.h" = some ([legacy] ++ [variant]) := by
    decide +kernel
  have hOverlooked : Overlooked .dialect [] d unseen := .forward rfl rfl
  have hWithout : standard.evaluate c.openSession [] d =
      .ok { rows := ["96"], composite := false } := by decide +kernel
  have hSame := evaluate_insert_overlooked hBuiltin rfl hHeader hOverlooked
  exact ⟨hBuiltin, hHeader, hOverlooked, hSame.trans hWithout⟩

end HeaderFacts

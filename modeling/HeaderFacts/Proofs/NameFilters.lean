import HeaderFacts.Proofs.EveryMatch

/-!
# Patterns and exclusions of tables

A table of macros, and one of enum constants with source tokens for values, has a row for every
declaration that its directive is about, so its rows are those that the declarations contribute one
by one, each as if no other were there. What a declaration contributes is one row or none, and the
row is the same whatever patterns and exclusions let it in. These only decide whether there is one:
patterns by any of them that matches, exclusions by none of them being the name.

Main definitions:

* `Directive.naming` — a directive with other patterns and exclusions.
* `TableModule.contributed` — the rows that a declaration contributes.

Main results:

* `TableModule.contributed_eq` — a declaration contributes its row if it is accepted.
* `TableModule.evaluate_naming` — the rows of a table, declaration by declaration.
* `TableModule.evaluate_filtered` — how patterns and exclusions decide over the rows.
-/

namespace HeaderFacts

/-- A directive with other patterns and exclusions. -/
def Directive.naming (d : Directive) (patterns : List NamePattern) (excluded : List String) :
    Directive :=
  { d with options := { d.options with patterns, excluded } }

namespace TableModule

/-- The rows that a declaration contributes: those of a session that holds no other. -/
def contributed (table : TableModule) (target : String) (d : Directive) (x : Decl) : List String :=
  match table.toModule.evaluate ⟨target, [x]⟩ d with
  | .ok emission => emission.rows
  | .error _ => []

/-- Tables that write source tokens, so that every declaration has a row. -/
def WritesTokens (o : Options) (table : TableModule) : Prop :=
  table = enumTable → o.rawTokens = true

/-- The row of a declaration in a table that writes source tokens. -/
def tokenRow (o : Options) (table : TableModule) (x : Decl) : String :=
  o.formatRow x.name <|
    match table with
    | macroTable => renderTokens .compact x.tokens
    | enumTable => x.rawValue

variable {table : TableModule} {d : Directive} {patterns : List NamePattern}
  {excluded : List String}

theorem row_of_writesTokens {o : Options} (h : table.WritesTokens o) (x : Decl) :
    table.row o x = .ok (table.tokenRow o x) := by
  cases table with
  | macroTable => rfl
  | enumTable => rw [row, value, ExtractionModule.enumValue, if_pos (h rfl)]; rfl

/-! ## One declaration after the other -/

/-- A table that writes source tokens makes a row of every accepted declaration. -/
theorem evaluate_of_writesTokens (h : table.WritesTokens d.options) (s : Session) :
    table.toModule.evaluate s d =
      .ok (Emission.ofRows d.options
        ((s.decls.filter (d.options.accepts table.toModule.defaultKinds)).map
          (table.tokenRow d.options))) := by
  have hAccepts : MatchRules.accepts ⟨table.toModule.defaultKinds, false⟩ d.options =
      d.options.accepts table.toModule.defaultKinds := rfl
  have hRow : table.row d.options = fun x => pure (table.tokenRow d.options x) :=
    funext (row_of_writesTokens h)
  rw [evaluate_session, hAccepts, hRow, List.mapM_pure]
  rfl

/-- A declaration contributes its row if it is accepted. -/
theorem contributed_eq (h : table.WritesTokens d.options) (target : String) (x : Decl) :
    table.contributed target d x =
      if d.options.accepts table.toModule.defaultKinds x then [table.tokenRow d.options x]
      else [] := by
  rw [contributed, evaluate_of_writesTokens h]
  cases hAccepts : d.options.accepts table.toModule.defaultKinds x <;>
    simp [Emission.ofRows, hAccepts]

/-- The rows of a session are those that its declarations contribute. -/
theorem evaluate_eq_contributed (h : table.WritesTokens d.options) (s : Session) :
    table.toModule.evaluate s d =
      .ok (Emission.ofRows d.options (s.decls.flatMap (table.contributed s.target d))) := by
  -- a declaration that is left out contributes the empty list
  have hRows : (s.decls.filter (d.options.accepts table.toModule.defaultKinds)).map
      (table.tokenRow d.options) = s.decls.flatMap (table.contributed s.target d) := by
    induction s.decls with
    | nil => rfl
    | cons x rest ih =>
      rw [List.filter_cons, List.flatMap_cons, ← ih, contributed_eq h]
      split <;> rfl
  rw [evaluate_of_writesTokens h, hRows]

/-! ## Patterns and exclusions -/

section Naming

variable {kinds : List NodeKind} {x : Decl}

/-- A name is let in by any pattern that matches it, by all names where there is no pattern, and kept
out by an exclusion. -/
theorem accepts_naming :
    (d.naming patterns excluded).options.accepts kinds x = true ↔
      (d.options.acceptsKind kinds x.kind = true ∧ d.options.acceptsEnum x = true) ∧
        (patterns = [] ∨ ∃ p ∈ patterns, p.isMatch x.name = true) ∧ x.name ∉ excluded := by
  have hKind : (d.naming patterns excluded).options.acceptsKind kinds x.kind =
      d.options.acceptsKind kinds x.kind := rfl
  have hEnum : (d.naming patterns excluded).options.acceptsEnum x = d.options.acceptsEnum x := rfl
  rw [Options.accepts, hKind, hEnum]
  simp [Options.acceptsName, Directive.naming]

/-- Two lists of patterns let in what either lets in. -/
theorem accepts_append_patterns {more : List NamePattern} (hPatterns : patterns ≠ [])
    (hMore : more ≠ []) :
    (d.naming (patterns ++ more) excluded).options.accepts kinds x = true ↔
      (d.naming patterns excluded).options.accepts kinds x = true ∨
        (d.naming more excluded).options.accepts kinds x = true := by
  -- an empty list would let every name in, and add none to the other
  simp only [accepts_naming, List.append_eq_nil_iff, List.mem_append, hPatterns, hMore, false_and,
    false_or, or_and_right, exists_or]
  exact and_or_left

/-- One more exclusion keeps out one name. -/
theorem accepts_append_excluded (name : String) :
    (d.naming patterns (excluded ++ [name])).options.accepts kinds x = true ↔
      (d.naming patterns excluded).options.accepts kinds x = true ∧ x.name ≠ name := by
  simp only [accepts_naming, List.mem_append, List.mem_singleton, not_or]
  tauto

/-- Neither the order nor the number of patterns and exclusions matters. -/
theorem accepts_of_same {patterns' : List NamePattern} {excluded' : List String}
    (hPatterns : ∀ p, p ∈ patterns ↔ p ∈ patterns')
    (hExcluded : ∀ n, n ∈ excluded ↔ n ∈ excluded') :
    (d.naming patterns excluded).options.accepts kinds x =
      (d.naming patterns' excluded').options.accepts kinds x := by
  -- no pattern at all lets every name in, so lists must be empty together
  have hNil : patterns = [] ↔ patterns' = [] := by
    simp only [List.eq_nil_iff_forall_not_mem, hPatterns]
  rw [Bool.eq_iff_iff]
  simp only [accepts_naming, hNil, hPatterns, hExcluded]

end Naming

/-! ## Whole tables -/

section Tables

variable {c : Catalog} {largeFile : List Define}

/-- Validation does not look at patterns and exclusions. -/
theorem validate_naming (table : TableModule) (d : Directive) (patterns : List NamePattern)
    (excluded : List String) :
    table.toModule.validate (d.naming patterns excluded) = table.toModule.validate d := by
  cases table <;> rfl

/-- The rows of a table, declaration by declaration. -/
theorem evaluate_naming (h : table.WritesTokens d.options)
    (hName : d.moduleName = table.toModule.name) (hValid : table.toModule.validate d = .ok ())
    (hResolved : ∀ header ∈ d.headers, (c.resolve? header).isSome) :
    Registry.standard.evaluate c.openSession largeFile (d.naming patterns excluded) =
      .ok (Emission.ofRows d.options ((c.session largeFile d).decls.flatMap
        (table.contributed c.dump.target (d.naming patterns excluded)))) := by
  have hNamed : table.toModule.validate (d.naming patterns excluded) = .ok () :=
    (table.validate_naming d patterns excluded).trans hValid
  have hTokens : table.WritesTokens (d.naming patterns excluded).options := h
  rw [Registry.evaluate_builtin (d := d.naming patterns excluded) table.mem_builtins hName hNamed
    hResolved, evaluate_eq_contributed hTokens]
  rfl

/-- A directive that is refused or of which a header cannot be found fails in the same way under all
patterns and exclusions. -/
theorem evaluate_naming_fails (hName : d.moduleName = table.toModule.name)
    (hFails : ¬ (table.toModule.validate d = .ok () ∧
      ∀ header ∈ d.headers, (c.resolve? header).isSome)) :
    ∃ err, ∀ patterns excluded,
      Registry.standard.evaluate c.openSession largeFile (d.naming patterns excluded) =
        .error err := by
  have hModule : Registry.standard.get? d.moduleName = some table.toModule := by
    rw [hName]
    exact Registry.get?_standard_of_mem table.mem_builtins
  cases hValid : table.toModule.validate d with
  | error err =>
    refine ⟨err, fun patterns excluded => ?_⟩
    exact Registry.evaluate_of_refused (d := d.naming patterns excluded) hModule
      ((table.validate_naming d patterns excluded).trans hValid) c.openSession
  | ok _ =>
    -- the headers and definitions that are asked for are those of the directive
    cases hSession : c.openSession (d.request largeFile) with
    | error err =>
      refine ⟨.query err, fun patterns excluded => ?_⟩
      have hSame : c.openSession ((d.naming patterns excluded).request largeFile) = .error err :=
        hSession
      rw [Registry.evaluate_of_checked (d := d.naming patterns excluded) hModule
        ((table.validate_naming d patterns excluded).trans hValid), hSame]
      rfl
    | ok s => exact absurd ⟨hValid, c.resolved_of_openSession hSession⟩ hFails

/-- Patterns and exclusions decide whether a declaration contributes its row, and not which. -/
theorem contributed_naming (h : table.WritesTokens d.options) (target : String) (x : Decl) :
    table.contributed target (d.naming patterns excluded) x =
      if (d.naming patterns excluded).options.accepts table.toModule.defaultKinds x then
        [table.tokenRow d.options x]
      else [] :=
  contributed_eq (d := d.naming patterns excluded) h target x

theorem contributed_ne_nil_iff (h : table.WritesTokens d.options) {target : String} {x : Decl} :
    table.contributed target (d.naming patterns excluded) x ≠ [] ↔
      (d.naming patterns excluded).options.accepts table.toModule.defaultKinds x = true := by
  rw [contributed_naming h]
  split <;> simp [*]

/-- One more exclusion takes the rows of one name away. -/
theorem contributed_append_excluded (h : table.WritesTokens d.options) (target name : String)
    (x : Decl) :
    table.contributed target (d.naming patterns (excluded ++ [name])) x =
      if x.name ≠ name then table.contributed target (d.naming patterns excluded) x else [] := by
  rw [contributed_naming h, contributed_naming h]
  by_cases hName : x.name = name <;> simp [accepts_append_excluded, hName]

/-- **Patterns and exclusions.** A table of macros, or of enum constants with source tokens, is
refused under all patterns and exclusions alike, or has under each of them the rows that the visible
declarations contribute, in traversal order. A declaration contributes one row or none, always the
same. Under two lists of patterns joined it contributes one if and only if it does under either, and
one more exclusion takes away the rows of the declarations of that name. In which order and how many
times patterns and exclusions are given makes no difference. -/
theorem evaluate_filtered {c : Catalog} {largeFile : List Define} {d : Directive}
    (hName : d.moduleName = table.toModule.name)
    (hTokens : table = enumTable → d.options.rawTokens = true) :
    let result (P : List NamePattern) (X : List String) :=
      Registry.standard.evaluate c.openSession largeFile (d.naming P X)
    let visible := (c.session largeFile d).decls
    let rows (P : List NamePattern) (X : List String) (x : Decl) :=
      table.contributed c.dump.target (d.naming P X) x
    (table.toModule.validate d = .ok () → (∀ header ∈ d.headers, (c.resolve? header).isSome) →
      ∀ P X, result P X =
        .ok { rows := visible.flatMap (rows P X), composite := d.options.composite }) ∧
    (¬ (table.toModule.validate d = .ok () ∧
        ∀ header ∈ d.headers, (c.resolve? header).isSome) →
      ∃ err, ∀ P X, result P X = .error err) ∧
    (∀ x, ∃ row, ∀ P X, rows P X x = [] ∨ rows P X x = [row]) ∧
    (∀ P Q X x, P ≠ [] → Q ≠ [] →
      (rows (P ++ Q) X x ≠ [] ↔ rows P X x ≠ [] ∨ rows Q X x ≠ [])) ∧
    (∀ P X n, visible.flatMap (rows P (X ++ [n])) =
      (visible.filter (·.name ≠ n)).flatMap (rows P X)) ∧
    ∀ P P' X X', (∀ p, p ∈ P ↔ p ∈ P') → (∀ n, n ∈ X ↔ n ∈ X') → result P X = result P' X' := by
  intro result visible rows
  have hMakes (hValid : table.toModule.validate d = .ok ())
      (hResolved : ∀ header ∈ d.headers, (c.resolve? header).isSome) (P X) :
      result P X = .ok { rows := visible.flatMap (rows P X), composite := d.options.composite } :=
    evaluate_naming hTokens hName hValid hResolved
  have hFails := @evaluate_naming_fails table d c largeFile hName
  refine ⟨hMakes, hFails, ?one, ?joined, ?without, ?same⟩
  case one =>
    intro x
    refine ⟨table.tokenRow d.options x, fun P X => ?_⟩
    simp only [rows]
    rw [contributed_naming hTokens]
    split
    · exact Or.inr rfl
    · exact Or.inl rfl
  case joined =>
    intro P Q X x hP hQ
    simp only [rows, contributed_ne_nil_iff hTokens]
    exact accepts_append_patterns hP hQ
  case without =>
    intro P X n
    simp only [rows]
    induction visible with
    | nil => rfl
    | cons x rest ih =>
      rw [List.flatMap_cons, ih, contributed_append_excluded hTokens, List.filter_cons]
      by_cases hSame : x.name = n <;> simp [hSame]
  case same =>
    intro P P' X X' hP hX
    by_cases h : table.toModule.validate d = .ok () ∧
        ∀ header ∈ d.headers, (c.resolve? header).isSome
    · -- the row of a declaration does not depend on the filters, so it is enough who is let in
      have hRows : rows P X = rows P' X' := by
        funext x
        simp only [rows]
        rw [contributed_naming hTokens, contributed_naming hTokens, accepts_of_same hP hX]
      rw [hMakes h.1 h.2, hMakes h.1 h.2, hRows]
    · obtain ⟨err, hErr⟩ := hFails h
      exact (hErr P X).trans (hErr P' X').symm

/-- Constants without values, of which one is matched by both patterns and one is excluded. -/
theorem evaluate_filtered_overlapping :
    let constant (name : String) : Decl :=
      { kind := .enumConstantDecl, name, tokens := [name, "=", "X"] }
    let c : Catalog :=
      { dump := ({ target := "x86_64-unknown-linux-gnu" } : Dump).addHeader "c.h"
          [constant "RUST", constant "RED", constant "BLUE", constant "MUD"] }
    let d : Directive :=
      { moduleName := "enum", headers := ["c.h"], options := { rawTokens := true } }
    let reds := (NamePattern.ofSource? "R.*").toList
    let muds := (NamePattern.ofSource? ".*D").toList
    let result (P : List NamePattern) (X : List String) :=
      Registry.standard.evaluate c.openSession [] (d.naming P X)
    d.moduleName = enumTable.toModule.name ∧ enumTable.toModule.validate d = .ok () ∧
      (∀ header ∈ d.headers, (c.resolve? header).isSome) ∧
      result (reds ++ muds) ["MUD"] = .ok { rows := ["RUST = X", "RED = X"] } ∧
      result (muds ++ reds ++ muds) ["MUD", "MUD"] = .ok { rows := ["RUST = X", "RED = X"] } := by
  have hPatterns (P Q : List NamePattern) (p : NamePattern) : p ∈ Q ++ P ++ Q ↔ p ∈ P ++ Q := by
    simp only [List.mem_append]
    tauto
  intro constant c d reds muds result
  have hName : d.moduleName = enumTable.toModule.name := rfl
  have hValid : enumTable.toModule.validate d = .ok () := by decide +kernel
  have hResolved : ∀ header ∈ d.headers, (c.resolve? header).isSome := by decide +kernel
  obtain ⟨hMakes, -, -, -, -, hSame⟩ := @evaluate_filtered enumTable c [] d hName fun _ => rfl
  have hRows : (c.session [] d).decls.flatMap
      (enumTable.contributed c.dump.target (d.naming (reds ++ muds) ["MUD"])) =
        ["RUST = X", "RED = X"] := by
    decide +kernel
  have hOnce : result (reds ++ muds) ["MUD"] = .ok { rows := ["RUST = X", "RED = X"] } := by
    rw [← hRows]
    exact hMakes hValid hResolved _ _
  have hAgain : result (muds ++ reds ++ muds) ["MUD", "MUD"] = result (reds ++ muds) ["MUD"] :=
    hSame (muds ++ reds ++ muds) (reds ++ muds) ["MUD", "MUD"] ["MUD"] (hPatterns reds muds)
      (by simp)
  exact ⟨hName, hValid, hResolved, hOnce, hAgain.trans hOnce⟩

end Tables

end TableModule

end HeaderFacts

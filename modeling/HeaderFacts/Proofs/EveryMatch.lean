import HeaderFacts.Proofs.Evaluation
import HeaderFacts.Proofs.FirstFailure
import HeaderFacts.Proofs.Traversal

/-!
# Every declaration

Two modules write a row for each declaration that a directive is about. The rows follow the list of
those declarations member by member: nothing is sorted, dropped or repeated, and a declaration
without a value ends the table with an error, the first such declaration deciding which.

Main definitions:

* `Catalog.listed` — the declarations that a directive is about.
* `TableModule` — the modules that write a row for each of them.
* `SourceText` — the text of a value in the source tokens of its declaration.

Main results:

* `Session.enumerateAll_eq` — rows of all declarations, as a map over the accepted ones.
* `sourceText_iff` — the source text of a value is the one that is written.
* `TableModule.evaluate_eq_mapM` — the emission of a valid directive.
* `mapM_row_enumTable_of_complete`, `mapM_row_enumTable_of_missing` — tables of enum constants.
* `TableModule.evaluate_listed` — the rows of a table, or the error that there is none.
-/

namespace HeaderFacts

/-! ## Rows -/

section Rows

variable {m : Type → Type} [Monad m] [LawfulMonad m]

/-- Taking up one result after the other is a map. -/
theorem foldlM_concat_eq_mapM {α β : Type} (f : α → m β) (l : List α) (taken : List β) :
    l.foldlM (fun results x => do return results ++ [← f x]) taken =
      (taken ++ ·) <$> l.mapM f := by
  induction l generalizing taken with
  | nil => simp
  | cons x rest ih =>
    simp only [List.foldlM_cons, List.mapM_cons, bind_assoc, pure_bind, ih, map_bind, map_pure]
    apply bind_congr
    intro result
    simp

/-- The rows of all declarations that a directive is about. -/
theorem Session.enumerateAll_eq (s : Session) (rules : MatchRules) (o : Options)
    (render : Decl → m String) :
    s.enumerateAll rules o render = (s.decls.filter (rules.accepts o)).mapM render := by
  rw [Session.enumerateAll, Session.gather_eq_foldlM, foldlM_concat_eq_mapM]
  simp

end Rows

/-! ## Source tokens -/

/-- The text of a value in the source tokens of a declaration, which begin with its name: the tokens
after the name, with nothing between them. Those of an enum constant may have a `=` before the value,
which does not belong to it. -/
inductive SourceText (kind : NodeKind) : List String → String → Prop
  | none : SourceText kind [] ""
  | assigned {name : String} {value : List String} (hKind : kind = .enumConstantDecl) :
      SourceText kind (name :: "=" :: value) (String.join value)
  | bare {name : String} {value : List String}
      (hSign : kind = .enumConstantDecl → value.head? ≠ some "=") :
      SourceText kind (name :: value) (String.join value)

/-- The source text of a value is the one that is written. -/
theorem sourceText_iff {x : Decl} {text : String} :
    SourceText x.kind x.tokens text ↔ text = x.rawValue := by
  unfold Decl.rawValue
  constructor
  · intro h
    cases hTokens : x.tokens with
    | nil =>
      rw [hTokens] at h
      cases h
      split <;> rfl
    | cons name rest =>
      rw [hTokens] at h
      cases h with
      | assigned hKind => rw [if_pos ⟨hKind, rfl⟩]; rfl
      | bare hSign =>
        rw [if_neg fun ⟨hKind, hSecond⟩ => hSign hKind (by rwa [List.head?_eq_getElem?])]
        rfl
  · rintro rfl
    cases x.tokens with
    | nil => split <;> exact .none
    | cons name rest =>
      split
      next hAssigned =>
        obtain ⟨hKind, hSecond⟩ := hAssigned
        obtain ⟨value, rfl⟩ : ∃ value, rest = "=" :: value := by
          rwa [List.getElem?_cons_succ, ← List.head?_eq_getElem?, List.head?_eq_some_iff] at hSecond
        exact .assigned hKind
      next hOther =>
        refine .bare fun hKind hSecond => hOther ⟨hKind, ?_⟩
        rwa [List.getElem?_cons_succ, ← List.head?_eq_getElem?]

/-! ## The modules -/

/-- The declarations that a directive is about, whether or not they define anything: the visible
ones of its headers, in traversal order, that pass its filters. -/
def Catalog.listed (c : Catalog) (largeFile : List Define) (kinds : List NodeKind)
    (d : Directive) : List Decl :=
  (c.declarations d.headers).filter fun decl =>
    (d.request largeFile).shows decl && d.options.accepts kinds decl

/-- The modules that write a row for each declaration that a directive is about. -/
inductive TableModule where
  | macroTable
  | enumTable
  deriving DecidableEq, Repr

namespace TableModule

/-- The module itself. -/
def toModule : TableModule → ExtractionModule
  | macroTable => .macroTable
  | enumTable => .enumTable

/-- The value in the row of a declaration. -/
def value (o : Options) (decl : Decl) : TableModule → Except ExtractionError String
  | macroTable => .ok (renderTokens .compact decl.tokens)
  | enumTable => ExtractionModule.enumValue o decl

/-- The row of a declaration. -/
def row (o : Options) (table : TableModule) (decl : Decl) : Except ExtractionError String :=
  (table.value o decl).map (o.formatRow decl.name)

theorem mem_builtins (table : TableModule) : table.toModule ∈ ExtractionModule.builtins := by
  cases table <;> simp [toModule, ExtractionModule.builtins]

/-- What a table makes of a session: a row for each declaration that the directive is about. -/
theorem evaluate_session (table : TableModule) (s : Session) (d : Directive) :
    table.toModule.evaluate s d =
      ((s.decls.filter (MatchRules.accepts ⟨table.toModule.defaultKinds, false⟩ d.options)).mapM
        (table.row d.options)).map (Emission.ofRows d.options) := by
  have hEmit : table.toModule.evaluate s d =
      ExtractionModule.emitAll table.toModule.defaultKinds (table.value d.options ·) s d := by
    cases table <;> rfl
  rw [hEmit, ExtractionModule.emitAll, Session.enumerateAll_eq]
  rfl

/-- The emission of a directive whose headers can all be found. -/
theorem evaluate_eq_mapM {table : TableModule} {c : Catalog} {largeFile : List Define}
    {d : Directive} (hName : d.moduleName = table.toModule.name)
    (hValid : table.toModule.validate d = .ok ())
    (hResolved : ∀ header ∈ d.headers, (c.resolve? header).isSome) :
    Registry.standard.evaluate c.openSession largeFile d =
      ((c.listed largeFile table.toModule.defaultKinds d).mapM (table.row d.options)).map
        (Emission.ofRows d.options) := by
  rw [Registry.evaluate_builtin table.mem_builtins hName hValid hResolved]
  have hListed : (c.session largeFile d).decls.filter
      (MatchRules.accepts ⟨table.toModule.defaultKinds, false⟩ d.options) =
        c.listed largeFile table.toModule.defaultKinds d := by
    -- unlike for a sole match, a forward declaration counts as well
    rw [Catalog.session, List.filter_filter, Catalog.listed]
    apply List.filter_congr
    intro decl _
    simp only [MatchRules.accepts, Bool.not_false, Bool.true_or, Bool.true_and]
    rw [Bool.and_comm]
  rw [evaluate_session, hListed]

/-! ## The rows -/

variable {o : Options}

/-- A macro always has a row. -/
theorem mapM_row_macroTable (o : Options) (decls : List Decl) :
    decls.mapM (macroTable.row o) =
      .ok (decls.map fun x => o.formatRow x.name (String.join (x.tokens.drop 1))) :=
  List.mapM_pure

/-- The text that stands for the value of an enum constant: that of its source tokens if those are
asked for, and otherwise its number. -/
def ValueText (o : Options) (decl : Decl) (text : String) : Prop :=
  (o.rawTokens = true → SourceText decl.kind decl.tokens text) ∧
    (o.rawTokens = false → ∃ number, decl.value = some number ∧ text = toString number.toInt)

/-- An enum constant has a row unless its number is asked for and missing. -/
theorem row_enumTable_ok_iff {decl : Decl} {row : String} :
    enumTable.row o decl = .ok row ↔
      ∃ text, ValueText o decl text ∧ row = o.formatRow decl.name text := by
  simp only [TableModule.row, value, ExtractionModule.enumValue, ValueText, sourceText_iff]
  cases hRaw : o.rawTokens with
  | true => simp [Except.map, eq_comm]
  | false =>
    cases hValue : decl.value with
    | none => simp [Except.map]
    | some number => simp [Except.map, eq_comm]

theorem exists_row_enumTable_iff {decl : Decl} :
    (∃ row, enumTable.row o decl = .ok row) ↔ o.rawTokens = true ∨ decl.value.isSome := by
  simp only [row_enumTable_ok_iff, ValueText, sourceText_iff]
  cases hRaw : o.rawTokens with
  | true => simp
  | false => simp [Option.isSome_iff_exists]

theorem row_enumTable_of_no_value {decl : Decl} (hRaw : o.rawTokens = false)
    (hValue : decl.value = none) :
    enumTable.row o decl = .error (.query (.property "value" decl.name)) := by
  simp [TableModule.row, value, ExtractionModule.enumValue, hRaw, hValue, Except.map]

/-- Constants of which all have a row make a table. -/
theorem mapM_row_enumTable_of_complete {decls : List Decl}
    (h : o.rawTokens = true ∨ ∀ x ∈ decls, x.value.isSome) :
    ∃ rows, decls.mapM (enumTable.row o) = .ok rows ∧
      List.Forall₂ (fun x row => ∃ text, ValueText o x text ∧ row = o.formatRow x.name text)
        decls rows := by
  have hAll : ∀ x ∈ decls, ∃ row, enumTable.row o x = .ok row := by
    intro x hx
    exact exists_row_enumTable_iff.2 (h.imp_right fun hValues => hValues x hx)
  obtain ⟨rows, hMap, hRows⟩ := mapM_of_success hAll
  exact ⟨rows, hMap, hRows.imp fun x row => row_enumTable_ok_iff.1⟩

/-- The first constant without a row ends a table. -/
theorem mapM_row_enumTable_of_missing {before after : List Decl} {x : Decl}
    (hRaw : o.rawTokens = false) (hBefore : ∀ y ∈ before, y.value.isSome) (hx : x.value = none) :
    (before ++ x :: after).mapM (enumTable.row o) = .error (.query (.property "value" x.name)) := by
  have hRows : ∀ y ∈ before, ∃ row, enumTable.row o y = .ok row := by
    intro y hy
    exact exists_row_enumTable_iff.2 (Or.inr (hBefore y hy))
  exact mapM_of_failure hRows (row_enumTable_of_no_value hRaw hx)

/-- A table that has been made lacks no row, for the first one would have ended it. -/
theorem complete_of_mapM_row_enumTable {decls : List Decl} {rows : List String}
    (h : decls.mapM (enumTable.row o) = .ok rows) :
    o.rawTokens = true ∨ ∀ x ∈ decls, x.value.isSome := by
  cases hRaw : o.rawTokens with
  | true => exact Or.inl rfl
  | false =>
    right
    rcases split_first (fun x : Decl => x.value = none) decls with
      hNone | ⟨before, x, after, rfl, hBefore, hx⟩
    · intro x hx
      exact Option.isSome_iff_ne_none.2 (hNone x hx)
    · have hValues : ∀ y ∈ before, y.value.isSome := by
        intro y hy
        exact Option.isSome_iff_ne_none.2 (hBefore y hy)
      rw [mapM_row_enumTable_of_missing hRaw hValues hx] at h
      cases h

/-- **Every declaration.** Of a directive whose module has checked it and whose headers can all be
found, a table of macros has a row for each listed declaration, in their order, and never fails. A
table of enum constants has one too if source tokens are asked for or every constant has a value,
and otherwise the error is that of the first constant without one. -/
theorem evaluate_listed {c : Catalog} {largeFile : List Define} {d : Directive}
    (hResolved : ∀ header ∈ d.headers, (c.resolve? header).isSome) :
    let o := d.options
    let result := Registry.standard.evaluate c.openSession largeFile d
    (d.moduleName = "macro" → macroTable.toModule.validate d = .ok () →
      let listed := c.listed largeFile [.macroDefinition] d
      result = .ok
        { rows := listed.map fun x => o.formatRow x.name (String.join (x.tokens.drop 1))
          composite := o.composite }) ∧
    (d.moduleName = "enum" → enumTable.toModule.validate d = .ok () →
      let listed := c.listed largeFile [.enumConstantDecl] d
      ((∃ emission, result = .ok emission) ↔
        o.rawTokens = true ∨ ∀ x ∈ listed, x.value.isSome) ∧
      (∀ emission, result = .ok emission → emission.composite = o.composite ∧
        List.Forall₂ (fun x row => ∃ text, ValueText o x text ∧ row = o.formatRow x.name text)
          listed emission.rows) ∧
      ∀ before x after, o.rawTokens = false → listed = before ++ x :: after →
        (∀ y ∈ before, y.value.isSome) → x.value = none →
        result = .error (.query (.property "value" x.name))) := by
  intro o result
  constructor
  · intro hName hValid listed
    have hResult : result = (listed.mapM (macroTable.row o)).map (Emission.ofRows o) :=
      evaluate_eq_mapM hName hValid hResolved
    rw [hResult, mapM_row_macroTable]
    rfl
  · intro hName hValid listed
    have hResult : result = (listed.mapM (enumTable.row o)).map (Emission.ofRows o) :=
      evaluate_eq_mapM hName hValid hResolved
    -- an emission holds the rows of a table
    have hTable (emission) (hOk : result = .ok emission) :
        ∃ rows, listed.mapM (enumTable.row o) = .ok rows ∧ Emission.ofRows o rows = emission := by
      rw [hResult] at hOk
      cases hMap : listed.mapM (enumTable.row o) with
      | error err =>
        rw [hMap] at hOk
        cases hOk
      | ok rows =>
        rw [hMap] at hOk
        exact ⟨rows, rfl, Except.ok.inj hOk⟩
    refine ⟨⟨?_, ?_⟩, ?_, ?_⟩
    · rintro ⟨emission, hOk⟩
      obtain ⟨rows, hMap, -⟩ := hTable emission hOk
      exact complete_of_mapM_row_enumTable hMap
    · intro hComplete
      obtain ⟨rows, hMap, -⟩ := mapM_row_enumTable_of_complete hComplete
      exact ⟨Emission.ofRows o rows, by rw [hResult, hMap]; rfl⟩
    · intro emission hOk
      obtain ⟨rows, hMap, rfl⟩ := hTable emission hOk
      obtain ⟨found, hFound, hRows⟩ :=
        mapM_row_enumTable_of_complete (complete_of_mapM_row_enumTable hMap)
      rw [hMap] at hFound
      cases hFound
      exact ⟨rfl, hRows⟩
    · intro before x after hRaw hSplit hBefore hx
      rw [hResult, hSplit, mapM_row_enumTable_of_missing hRaw hBefore hx]
      rfl

/-- Two spellings of one header, and two constants without a value after one that is hidden. They
have source tokens, of which one row leaves out the `=`. -/
theorem evaluate_listed_missingValue :
    let green : Decl := { kind := .enumConstantDecl, name := "GREEN", tokens := ["GREEN", "=", "1"] }
    let black : Decl := { green with name := "BLACK", tokens := ["BLACK", "GREEN", "+", "1"] }
    let decls : List Decl :=
      [Decl.enumConstant "RED" (-1), { green with name := "BLUE" }.whenDefined "BIG" "1", green, black]
    let c : Catalog :=
      { dump := ({ target := "x86_64-unknown-linux-gnu" } : Dump).addHeader "inc/c.h" decls
        includePaths := ["inc"] }
    let d : Directive := { moduleName := "enum", headers := ["c.h", "inc/c.h"] }
    let raw : Directive := { d with options := { rawTokens := true } }
    (∀ header ∈ d.headers, (c.resolve? header).isSome) ∧ enumTable.toModule.validate d = .ok () ∧
      Registry.standard.evaluate c.openSession [] d =
        .error (.query (.property "value" "GREEN")) ∧
      ∃ emission, Registry.standard.evaluate c.openSession [] raw = .ok emission ∧
        emission.rows = ["RED = ", "GREEN = 1", "BLACK = GREEN+1"] := by
  intro green black decls c d raw
  have hResolved : ∀ header ∈ d.headers, (c.resolve? header).isSome := by decide +kernel
  have hValid : enumTable.toModule.validate d = .ok () := by decide +kernel
  have hListed : c.listed [] [.enumConstantDecl] d =
      [Decl.enumConstant "RED" (-1)] ++ green :: [black] := by
    decide +kernel
  have hRawListed : c.listed [] [.enumConstantDecl] raw =
      [Decl.enumConstant "RED" (-1), green, black] := by
    decide +kernel
  obtain ⟨-, hEnum⟩ := @evaluate_listed c [] d hResolved
  obtain ⟨-, -, hFailure⟩ := hEnum rfl hValid
  obtain ⟨-, hRawEnum⟩ := @evaluate_listed c [] raw hResolved
  obtain ⟨hComplete, hRows, -⟩ := hRawEnum rfl (by decide +kernel)
  obtain ⟨emission, hEmission⟩ := hComplete.2 (.inl rfl)
  refine ⟨hResolved, hValid, hFailure _ green _ rfl hListed (by simp [Decl.enumConstant]) rfl,
    emission, hEmission, ?_⟩
  obtain ⟨-, hRows⟩ := hRows emission hEmission
  rw [hRawListed] at hRows
  -- with `-R` each row holds the source text of its declaration
  have hRow {x : Decl} {row : String}
      (h : ∃ text, ValueText raw.options x text ∧ row = raw.options.formatRow x.name text) :
      row = raw.options.formatRow x.name x.rawValue := by
    obtain ⟨text, ⟨hText, -⟩, rfl⟩ := h
    rw [sourceText_iff.1 (hText rfl)]
  generalize emission.rows = rows at hRows
  obtain _ | ⟨hRed, _ | ⟨hGreen, _ | ⟨hBlack, _ | _⟩⟩⟩ := hRows
  rw [hRow hRed, hRow hGreen, hRow hBlack]
  decide +kernel

end TableModule

end HeaderFacts

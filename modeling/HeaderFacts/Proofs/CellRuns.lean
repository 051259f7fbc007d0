import HeaderFacts.Dump.Catalog
import HeaderFacts.Proofs.Composition

/-!
# Runs of cells

The rows of a composite emission are cells. Within a block, the cells of neighbouring composite
emissions share a line, and rows of other emissions come between them; an emission without rows is
no neighbour of any other. So the emissions that have rows fall into maximal runs of composite ones
and single others, and a run makes one line. Runs are a matter of one block: the lines of a block do
not depend on what stands before or after it in the template.

Main definitions:

* `withRows` — the emissions that have rows.
* `Composed` — the lines of emissions, each maximal run of composite ones on one line.

Main results:

* `composed_iff` — composing the rows of a block yields these lines and no others.
* `parts_of_composed` — each row stands in one line, and all of them stand in order.
* `Engine.renderBlock_composed` — the lines of a block, and what they are in a template.
-/

namespace HeaderFacts

/-! ## Lines of emissions -/

/-- The emissions that have rows. -/
def withRows (emissions : List Emission) : List Emission :=
  emissions.filter (!·.isEmpty)

/-- The lines of emissions. Each row of an emission that is not composite is a line. Composite
emissions that follow one another, from the first to the last of them, make one line of all their
cells. -/
inductive Composed : List Emission → List String → Prop
  | nil : Composed [] []
  | rows {em rest lines} (hPlain : em.composite = false) (hRest : Composed rest lines) :
      Composed (em :: rest) (em.rows ++ lines)
  | cells {run rest lines} (hRun : run ≠ []) (hCells : ∀ em ∈ run, em.composite = true)
      (hMaximal : ∀ em, rest.head? = some em → em.composite = false)
      (hRest : Composed rest lines) :
      Composed (run ++ rest) (String.intercalate "," (run.flatMap (·.rows)) :: lines)

/-- All emissions make lines: a composite one joins the run that it stands before, if there is
one. -/
theorem exists_composed (emissions : List Emission) : ∃ lines, Composed emissions lines := by
  -- from the last one on: how the lines behind it begin says whether it joins a run
  induction emissions with
  | nil => exact ⟨[], .nil⟩
  | cons em rest ih =>
    obtain ⟨lines, hRest⟩ := ih
    cases hKind : em.composite with
    | false => exact ⟨_, .rows hKind hRest⟩
    | true =>
      have hSole : ∀ x ∈ [em], x.composite = true := by simpa using hKind
      cases hRest with
      | nil => exact ⟨_, .cells (List.cons_ne_nil em []) hSole (by simp) .nil⟩
      | @rows next others lines hPlain hOthers =>
        have hMaximal : ∀ x, (next :: others).head? = some x → x.composite = false := by
          rintro x ⟨⟩
          exact hPlain
        exact ⟨_, .cells (List.cons_ne_nil em []) hSole hMaximal (.rows hPlain hOthers)⟩
      | @cells run others lines hRun hCells hMaximal hOthers =>
        have hLonger : ∀ x ∈ em :: run, x.composite = true :=
          List.forall_mem_cons.2 ⟨hKind, hCells⟩
        exact ⟨_, .cells (List.cons_ne_nil em run) hLonger hMaximal hOthers⟩

theorem joinCells_of_ne_nil {cells : List String} (h : cells ≠ []) :
    joinCells cells = [String.intercalate "," cells] := by
  rw [joinCells, if_neg]
  rwa [List.isEmpty_iff]

/-- Cells of a run are gathered, whatever has been gathered before. -/
theorem composeRows_cells {run : List Emission} (hCells : ∀ em ∈ run, em.composite = true)
    (hRows : ∀ em ∈ run, em.isEmpty = false) (gathered : List String) (rest : List Emission) :
    composeRows gathered (run ++ rest) = composeRows (gathered ++ run.flatMap (·.rows)) rest := by
  induction run generalizing gathered with
  | nil => simp
  | cons em run ih =>
    obtain ⟨hCell, hCells⟩ := List.forall_mem_cons.1 hCells
    obtain ⟨hRow, hRows⟩ := List.forall_mem_cons.1 hRows
    rw [List.cons_append, composeRows, hRow, hCell]
    show composeRows (gathered ++ em.rows) (run ++ rest) = _
    rw [ih hCells hRows]
    simp

/-- What has been gathered is a line before a row that is no cell, and at the end. -/
theorem composeRows_flush {emissions : List Emission} (hRows : ∀ em ∈ emissions, em.isEmpty = false)
    (hNext : ∀ em, emissions.head? = some em → em.composite = false) (gathered : List String) :
    composeRows gathered emissions = joinCells gathered ++ composeRows [] emissions := by
  cases emissions with
  | nil =>
    show joinCells gathered = joinCells gathered ++ []
    rw [List.append_nil]
  | cons em rest =>
    have hRow : em.isEmpty = false := hRows em List.mem_cons_self
    have hPlain : em.composite = false := hNext em rfl
    rw [composeRows, composeRows, hRow, hPlain]
    show joinCells gathered ++ em.rows ++ composeRows [] rest =
      joinCells gathered ++ ([] ++ em.rows ++ composeRows [] rest)
    rw [List.nil_append, List.append_assoc]

theorem flatMap_rows_ne_nil {run : List Emission} (hRun : run ≠ [])
    (hRows : ∀ em ∈ run, em.isEmpty = false) : run.flatMap (·.rows) ≠ [] := by
  obtain ⟨em, rest, rfl⟩ := List.exists_cons_of_ne_nil hRun
  have hRow : em.rows ≠ [] := by
    simpa [Emission.isEmpty] using hRows em List.mem_cons_self
  simp [hRow]

theorem eq_composeRows_of_composed {emissions : List Emission} {lines : List String}
    (h : Composed emissions lines) (hRows : ∀ em ∈ emissions, em.isEmpty = false) :
    lines = composeRows [] emissions := by
  -- along the lines; nothing is gathered where one of them begins
  induction h with
  | nil => rfl
  | @rows em rest lines hPlain hRest ih =>
    obtain ⟨hRow, hRows⟩ := List.forall_mem_cons.1 hRows
    rw [ih hRows, composeRows, hRow, hPlain]
    rfl
  | @cells run rest lines hRun hCells hMaximal hRest ih =>
    obtain ⟨hRunRows, hRestRows⟩ := List.forall_mem_append.1 hRows
    -- the run is gathered as a whole, and what follows it makes a line of it
    rw [ih hRestRows, composeRows_cells hCells hRunRows, List.nil_append,
      composeRows_flush hRestRows hMaximal (run.flatMap (·.rows)),
      joinCells_of_ne_nil (flatMap_rows_ne_nil hRun hRunRows)]
    rfl

theorem isEmpty_of_mem_withRows {emissions : List Emission} :
    ∀ em ∈ withRows emissions, em.isEmpty = false := by
  intro em hem
  simpa using (List.mem_filter.1 hem).2

/-- Emissions without rows are passed over. -/
theorem composeRows_withRows (gathered : List String) (emissions : List Emission) :
    composeRows gathered emissions = composeRows gathered (withRows emissions) := by
  induction emissions generalizing gathered with
  | nil => rfl
  | cons em rest ih =>
    cases hRow : em.isEmpty with
    | true =>
      have hSkipped : withRows (em :: rest) = withRows rest :=
        List.filter_cons_of_neg (by simp [hRow])
      rw [hSkipped, composeRows, if_pos hRow, ih]
    | false =>
      have hKept : withRows (em :: rest) = em :: withRows rest :=
        List.filter_cons_of_pos (by simp [hRow])
      rw [hKept, composeRows, composeRows, ih gathered, ih (gathered ++ em.rows), ih []]

/-- The rows of a block are composed to the lines of its emissions that have rows. -/
theorem composed_iff {emissions : List Emission} {lines : List String} :
    Composed (withRows emissions) lines ↔ lines = composeRows [] emissions := by
  rw [composeRows_withRows]
  constructor
  · intro h
    exact eq_composeRows_of_composed h isEmpty_of_mem_withRows
  · rintro rfl
    obtain ⟨lines, hComposed⟩ := exists_composed (withRows emissions)
    rwa [← eq_composeRows_of_composed hComposed isEmpty_of_mem_withRows]

/-! ## Rows in lines -/

theorem flatMap_rows_withRows (emissions : List Emission) :
    (withRows emissions).flatMap (·.rows) = emissions.flatMap (·.rows) := by
  induction emissions with
  | nil => rfl
  | cons em rest ih =>
    cases hRow : em.rows with
    | nil => simpa [withRows, Emission.isEmpty, hRow] using ih
    | cons row rows => simpa [withRows, Emission.isEmpty, hRow] using ih

/-- The lines are the rows, all of them and in order, cut into parts that are joined by commas. -/
theorem parts_of_composed {emissions : List Emission} {lines : List String}
    (h : Composed emissions lines) (hRows : ∀ em ∈ emissions, em.isEmpty = false) :
    ∃ parts : List (List String), parts.flatten = emissions.flatMap (·.rows) ∧
      (∀ part ∈ parts, part ≠ []) ∧ lines = parts.map (String.intercalate ",") := by
  induction h with
  | nil => exact ⟨[], rfl, by simp, rfl⟩
  | @rows em rest lines hPlain hRest ih =>
    obtain ⟨parts, hFlatten, hNonempty, rfl⟩ := ih (List.forall_mem_cons.1 hRows).2
    refine ⟨em.rows.map ([·]) ++ parts, ?_, ?_, ?_⟩
    · simp [hFlatten, ← List.flatMap_def]
    · intro part hPart
      rcases List.mem_append.1 hPart with hPart | hPart
      · obtain ⟨row, -, rfl⟩ := List.mem_map.1 hPart
        exact List.cons_ne_nil row []
      · exact hNonempty part hPart
    · -- a row on its own is its line
      have hSingle : em.rows.map (String.intercalate "," ∘ ([·])) = em.rows :=
        List.map_id'' (fun _ => rfl) em.rows
      rw [List.map_append, List.map_map, hSingle]
  | @cells run rest lines hRun hCells hMaximal hRest ih =>
    obtain ⟨hRunRows, hRestRows⟩ := List.forall_mem_append.1 hRows
    obtain ⟨parts, hFlatten, hNonempty, rfl⟩ := ih hRestRows
    refine ⟨run.flatMap (·.rows) :: parts, ?_, ?_, rfl⟩
    · rw [List.flatten_cons, hFlatten, List.flatMap_append]
    · exact List.forall_mem_cons.2 ⟨flatMap_rows_ne_nil hRun hRunRows, hNonempty⟩

/-! ## Blocks in a template -/

namespace Engine

variable {e : Engine} {b : Block} {emissions : List Emission}

theorem renderBlock_of_outcomes
    (h : List.Forall₂ (fun d em => e.outcome d = .ok em) b.directives emissions) :
    e.renderBlock b = .ok (composeRows [] emissions) := by
  have hMap : b.directives.mapM e.evaluate = .ok emissions :=
    mapM_of_forall₂ (h.imp fun _ _ hem => evaluate_eq_ok_iff.2 hem)
  rw [renderBlock, hMap]
  rfl

/-- Segments are rendered one after the other. -/
theorem renderAll_append (e : Engine) (front back : List Segment) :
    e.renderAll (front ++ back) = do return (← e.renderAll front) ++ (← e.renderAll back) := by
  induction front with
  | nil =>
    show e.renderAll back = do return "" ++ (← e.renderAll back)
    cases e.renderAll back with
    | error err => rfl
    | ok later => exact congrArg Except.ok String.empty_append.symm
  | cons s rest ih =>
    rw [List.cons_append, renderAll_cons, renderAll_cons, ih]
    cases e.renderSegment s with
    | error err => rfl
    | ok text =>
      cases e.renderAll rest with
      | error err => rfl
      | ok earlier =>
        cases e.renderAll back with
        | error err => rfl
        | ok later => exact congrArg Except.ok String.append_assoc.symm

theorem renderAll_block {lines : List String} (h : e.renderBlock b = .ok lines)
    (front back : List Segment) :
    e.renderAll (front ++ .block b :: back) = do
      return (← e.renderAll front) ++
        (String.join (lines.map (· ++ "\n")) ++ (← e.renderAll back)) := by
  have hSegment : e.renderSegment (.block b) = .ok (String.join (lines.map (· ++ "\n"))) := by
    rw [renderSegment, h]
    rfl
  rw [renderAll_append, renderAll_cons, hSegment]
  cases e.renderAll front with
  | error err => rfl
  | ok earlier => cases e.renderAll back <;> rfl

/-- A directive without rows can be left out of its block. -/
theorem withRows_of_outcomes {front back : List DirectiveLine} {d : DirectiveLine} {em : Emission}
    (h : List.Forall₂ (fun d em => e.outcome d = .ok em) (front ++ d :: back) emissions)
    (hd : e.outcome d = .ok em) (hRows : em.rows = []) :
    ∃ others, List.Forall₂ (fun d em => e.outcome d = .ok em) (front ++ back) others ∧
      withRows others = withRows emissions := by
  induction front generalizing emissions with
  | nil =>
    cases h with
    | @cons _ found _ later hFound hLater =>
      have hSame : found = em := Except.ok.inj (hFound.symm.trans hd)
      have hSkipped : found.isEmpty = true := by rw [hSame, Emission.isEmpty, hRows]; rfl
      exact ⟨later, hLater, (List.filter_cons_of_neg (by simp [hSkipped])).symm⟩
  | cons x front ih =>
    cases h with
    | @cons _ first _ later hFirst hLater =>
      obtain ⟨others, hOthers, hSame⟩ := ih hLater
      refine ⟨first :: others, .cons hFirst hOthers, ?_⟩
      have hCons (more : List Emission) :
          withRows (first :: more) = withRows [first] ++ withRows more :=
        List.filter_append [first] more
      rw [hCons others, hCons later, hSame]

/-- **Runs of cells.** Where all directives of a block succeed, its lines are those of their
emissions that have rows, each maximal run of composite ones on one line. So every row stands in
one line and all of them stand in order; a directive without rows can be left out; the block has
these lines wherever in a template it stands; and a block without rows might as well be missing. -/
theorem renderBlock_composed (e : Engine) {b : Block} {emissions : List Emission}
    (hEmissions : List.Forall₂ (fun d em => e.outcome d = .ok em) b.directives emissions) :
    ∃ lines, e.renderBlock b = .ok lines ∧
      (∀ other, Composed (withRows emissions) other ↔ other = lines) ∧
      (∃ parts : List (List String), parts.flatten = emissions.flatMap (·.rows) ∧
        (∀ part ∈ parts, part ≠ []) ∧ lines = parts.map (String.intercalate ",")) ∧
      (∀ front d back em, b.directives = front ++ d :: back → e.outcome d = .ok em →
        em.rows = [] → e.renderBlock ⟨b.line, front ++ back⟩ = .ok lines) ∧
      ∀ source front back, e.markers.scan source = .ok (front ++ .block b :: back) →
        (e.render source = do
          return (← e.renderAll front) ++
            (String.join (lines.map (· ++ "\n")) ++ (← e.renderAll back))) ∧
        ((∀ em ∈ emissions, em.rows = []) →
          lines = [] ∧ e.render source = e.renderAll (front ++ back)) := by
  have hLines := renderBlock_of_outcomes hEmissions
  refine ⟨composeRows [] emissions, hLines, fun other => composed_iff, ?_, ?_, ?_⟩
  · have hComposed : Composed (withRows emissions) (composeRows [] emissions) :=
      composed_iff.2 rfl
    obtain ⟨parts, hFlatten, hParts⟩ := parts_of_composed hComposed isEmpty_of_mem_withRows
    exact ⟨parts, hFlatten.trans (flatMap_rows_withRows emissions), hParts⟩
  · intro front d back em hDirectives hd hRows
    rw [hDirectives] at hEmissions
    obtain ⟨others, hOthers, hSame⟩ := withRows_of_outcomes hEmissions hd hRows
    rw [composeRows_withRows, ← hSame, ← composeRows_withRows]
    exact renderBlock_of_outcomes hOthers
  · intro source front back hScan
    have hRender := (render_eq_renderAll hScan).trans (renderAll_block hLines front back)
    refine ⟨hRender, fun hNone => ?_⟩
    have hEmpty : withRows emissions = [] := by
      apply List.filter_eq_nil_iff.2
      intro em hem
      simp [Emission.isEmpty, hNone em hem]
    have hNoLines : composeRows [] emissions = [] := by
      rw [composeRows_withRows, hEmpty]
      rfl
    refine ⟨hNoLines, ?_⟩
    rw [hRender, hNoLines, renderAll_append]
    -- no lines are joined to no text
    cases e.renderAll front with
    | error err => rfl
    | ok earlier =>
      cases e.renderAll back with
      | error err => rfl
      | ok later => exact congrArg (fun text => Except.ok (earlier ++ text)) String.empty_append

/-- A run with a directive in it that matches nothing, a row of its own, and a run at the end. -/
theorem renderBlock_composed_runs :
    let decls : List Decl := [Decl.macroOf "A" ["A", "1"], Decl.macroOf "B" ["B", "2"]]
    let c : Catalog :=
      { dump := ({ target := "x86_64-unknown-linux-gnu" } : Dump).addHeader "h.h" decls }
    let e : Engine := { service := c.openSession }
    let b : Block := ⟨1, [⟨2, "macro -C -p A h.h"⟩, ⟨3, "macro -p Z h.h"⟩, ⟨4, "macro -C -p B h.h"⟩,
      ⟨5, "macro -p A h.h"⟩, ⟨6, "macro -C h.h"⟩]⟩
    let emissions : List Emission := [⟨["[A]=1"], true⟩, ⟨[], false⟩, ⟨["[B]=2"], true⟩,
      ⟨["A = 1"], false⟩, ⟨["[A]=1", "[B]=2"], true⟩]
    List.Forall₂ (fun d em => e.outcome d = .ok em) b.directives emissions ∧
      e.renderBlock b = .ok ["[A]=1,[B]=2", "A = 1", "[A]=1,[B]=2"] := by
  intro decls c e b emissions
  have hEmissions : List.Forall₂ (fun d em => e.outcome d = .ok em) b.directives emissions :=
    .cons (by decide +kernel) (.cons (by decide +kernel) (.cons (by decide +kernel)
      (.cons (by decide +kernel) (.cons (by decide +kernel) .nil))))
  obtain ⟨lines, hLines, hComposed, -⟩ := renderBlock_composed e hEmissions
  -- the runs are the first two composite emissions and the last one
  have hLast : Composed ([⟨["[A]=1", "[B]=2"], true⟩] ++ []) ["[A]=1,[B]=2"] :=
    .cells (by simp) (by simp) (by simp) .nil
  have hRow : Composed [⟨["A = 1"], false⟩, ⟨["[A]=1", "[B]=2"], true⟩]
      ["A = 1", "[A]=1,[B]=2"] := .rows rfl hLast
  have hRuns : Composed ([⟨["[A]=1"], true⟩, ⟨["[B]=2"], true⟩] ++
      [⟨["A = 1"], false⟩, ⟨["[A]=1", "[B]=2"], true⟩])
      ["[A]=1,[B]=2", "A = 1", "[A]=1,[B]=2"] := .cells (by simp) (by simp) (by simp) hRow
  rw [← (hComposed _).1 hRuns] at hLines
  exact ⟨hEmissions, hLines⟩

end Engine

end HeaderFacts

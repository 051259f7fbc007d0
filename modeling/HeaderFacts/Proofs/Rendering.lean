import HeaderFacts.Proofs.Tiling
import HeaderFacts.Template.Render

/-!
# Rendering fails fast

A template is scanned as a whole before any of its directives is carried out. After that the
directives are carried out in the order of the template, and the first that fails decides the
outcome, together with where it stands: the number of its first physical line and its text, joined
from the lines it is continued over.

Main definitions:

* `Stands` — a directive among the physical lines of a source.
* `directivesOf` — the directives of all blocks, in the order of the template.
* `Engine.outcome` — what the text of a directive gives on its own.
* `Engine.Yields` — the text of a segment whose directives all succeed.
* `Engine.renderAll` — the text of segments.

Main results:

* `stands_of_tiling` — a directive of a tiling stands where its number says.
* `mapM_renderSegment_of_failure`, `mapM_renderSegment_of_success` — what segments are rendered to.
* `render_fails_fast` — the outcome of a rendering.
-/

namespace HeaderFacts

/-! ## Where a directive stands -/

section Standing

variable {m : Markers}

/-- A directive among lines, the first of which is numbered `n`. It stands in a block, after lines
that belong to other directives, and goes on from its first line to the first that continues no
further. -/
inductive Stands (m : Markers) (n : Nat) : List (List Char) → DirectiveLine → Prop
  | intro {before first skipped earlier front last after} (hStart : m.IsStart first)
      (hBody : ∀ l ∈ skipped ++ (front ++ [last]), ¬ m.IsEnd l)
      (hSkipped : Directives m (n + before.length + 1) skipped earlier)
      (hFront : ∀ l ∈ front, m.Continues l) (hLast : ¬ m.Continues last)
      (hFirst : front = [] → trimmedLine last ≠ []) :
      Stands m n (before ++ first :: (skipped ++ (front ++ last :: after)))
        (directiveOf m (n + before.length + 1 + skipped.length) front last)

/-- The directives of a segment. -/
def Segment.directives : Segment → List DirectiveLine
  | text _ => []
  | block b => b.directives

/-- The directives of segments, in their order. -/
def directivesOf (segments : List Segment) : List DirectiveLine :=
  segments.flatMap Segment.directives

theorem directives_split {n : Nat} {body : List (List Char)} {directives : List DirectiveLine}
    (h : Directives m n body directives) {d : DirectiveLine} (hd : d ∈ directives) :
    ∃ skipped earlier front last after, body = skipped ++ (front ++ last :: after) ∧
      Directives m n skipped earlier ∧ (∀ l ∈ front, m.Continues l) ∧ ¬ m.Continues last ∧
      (front = [] → trimmedLine last ≠ []) ∧
      d = directiveOf m (n + skipped.length) front last := by
  induction h with
  | nil => cases hd
  | @blank n line rest directives hBlank hRest ih =>
    obtain ⟨skipped, earlier, front, last, after, rfl, hSkipped, hFront, hLast, hFirst, rfl⟩ :=
      ih hd
    refine ⟨line :: skipped, earlier, front, last, after, rfl, .blank hBlank hSkipped, hFront,
      hLast, hFirst, ?_⟩
    rw [List.length_cons, show n + (skipped.length + 1) = n + 1 + skipped.length by omega]
  | @directive n front last rest directives hFront hLast hFirst hRest ih =>
    rcases List.mem_cons.1 hd with rfl | hd
    · exact ⟨[], [], front, last, rest, rfl, .nil, hFront, hLast, hFirst, rfl⟩
    · obtain ⟨skipped, earlier, front', last', after, rfl, hSkipped, hFront', hLast', hFirst',
        rfl⟩ := ih hd
      refine ⟨front ++ last :: skipped, _, front', last', after, by simp,
        .directive hFront hLast hFirst hSkipped, hFront', hLast', hFirst', ?_⟩
      rw [List.length_append, List.length_cons,
        show n + (front.length + (skipped.length + 1)) = n + front.length + 1 + skipped.length
          by omega]

theorem stands_append {n : Nat} {span lines : List (List Char)} {d : DirectiveLine}
    (h : Stands m (n + span.length) lines d) : Stands m n (span ++ lines) d := by
  cases h with
  | @intro before first skipped earlier front last after hStart hBody hSkipped hFront hLast hFirst =>
    rw [Nat.add_assoc n, ← List.length_append] at hSkipped ⊢
    rw [← List.append_assoc]
    exact .intro hStart hBody hSkipped hFront hLast hFirst

/-- A directive of a tiling stands where its number says. -/
theorem stands_of_tiling {n : Nat} {spans : List (List (List Char))} {segments : List Segment}
    {waiting : Option (List Char)} (h : Tiling m n spans segments waiting) {d : DirectiveLine}
    (hd : d ∈ directivesOf segments) : Stands m n spans.flatten d := by
  induction h with
  | done => cases hd
  | text hSpan hText hRest hNext ih => exact stands_append (ih hd)
  | openText hText => cases hd
  | @block n first body last directives spans segments waiting hStart hBody hEnd hDirectives hRest
      ih =>
    rcases List.mem_append.1 hd with hd | hd
    · obtain ⟨skipped, earlier, front, last', after, rfl, hSkipped, hFront, hLast, hFirst, rfl⟩ :=
        directives_split hDirectives hd
      have hBodyLines : skipped ++ (front ++ last' :: after) =
          skipped ++ (front ++ [last']) ++ after := by simp
      have hLines : ∀ l ∈ skipped ++ (front ++ [last']), ¬ m.IsEnd l := by
        intro l hl
        apply hBody l
        rw [hBodyLines]
        exact List.mem_append_left after hl
      have hStands : Stands m n ([] ++ first :: (skipped ++ (front ++ last' ::
          (after ++ last :: spans.flatten)))) _ :=
        .intro hStart hLines hSkipped hFront hLast hFirst
      simpa using hStands
    · have hLength : (first :: (body ++ [last])).length = body.length + 2 := by simp
      have hStands : Stands m n (first :: (body ++ [last]) ++ spans.flatten) d :=
        stands_append (hLength ▸ ih hd)
      exact hStands

end Standing

/-! ## Rendered segments -/

namespace Engine

variable (e : Engine)

/-- What the text of a directive gives on its own. -/
def outcome (d : DirectiveLine) : Except ExtractionError Emission :=
  e.registry.evaluateLine e.service e.largeFile d.text

/-- The text of a segment whose directives all succeed: text as it is, and for a block its output
lines, each followed by a newline. -/
inductive Yields : Segment → String → Prop
  | text (t : String) : Yields (.text t) t
  | block {b emissions}
      (hEmissions : List.Forall₂ (fun d em => e.outcome d = .ok em) b.directives emissions) :
      Yields (.block b) (String.join ((composeRows [] emissions).map (· ++ "\n")))

/-- The text of segments. -/
def renderAll (segments : List Segment) : Except TemplateError String :=
  (segments.mapM e.renderSegment).map String.join

variable {e}

theorem evaluate_of_failure {d : DirectiveLine} {cause : ExtractionError}
    (h : e.outcome d = .error cause) : e.evaluate d = .error (.directive d.line d.text cause) := by
  rw [outcome] at h
  rw [evaluate, h]
  rfl

theorem evaluate_eq_ok_iff {d : DirectiveLine} {em : Emission} :
    e.evaluate d = .ok em ↔ e.outcome d = .ok em := by
  rw [evaluate, outcome]
  cases e.registry.evaluateLine e.service e.largeFile d.text with
  | error cause => constructor <;> (intro h; cases h)
  | ok emission => constructor <;> (intro h; cases h; rfl)

theorem renderBlock_of_failure {b : Block} {before after : List DirectiveLine} {d : DirectiveLine}
    {cause : ExtractionError} (hDirectives : b.directives = before ++ d :: after)
    (hBefore : ∀ x ∈ before, ∃ em, e.outcome x = .ok em) (hd : e.outcome d = .error cause) :
    e.renderSegment (.block b) = .error (.directive d.line d.text cause) := by
  have hMap : b.directives.mapM e.evaluate = .error (.directive d.line d.text cause) := by
    rw [hDirectives]
    apply mapM_of_failure _ (evaluate_of_failure hd)
    intro x hx
    obtain ⟨em, hem⟩ := hBefore x hx
    exact ⟨em, evaluate_eq_ok_iff.2 hem⟩
  rw [renderSegment, renderBlock, hMap]
  rfl

theorem renderBlock_of_success {b : Block} (h : ∀ d ∈ b.directives, ∃ em, e.outcome d = .ok em) :
    ∃ text, e.renderSegment (.block b) = .ok text ∧ e.Yields (.block b) text := by
  have hOk : ∀ d ∈ b.directives, ∃ em, e.evaluate d = .ok em := by
    intro d hd
    obtain ⟨em, hem⟩ := h d hd
    exact ⟨em, evaluate_eq_ok_iff.2 hem⟩
  obtain ⟨emissions, hMap, hAll⟩ := mapM_of_success hOk
  refine ⟨_, ?_, .block (hAll.imp fun d em hem => evaluate_eq_ok_iff.1 hem)⟩
  rw [renderSegment, renderBlock, hMap]
  rfl

/-- The first directive that fails decides what the segments are rendered to. -/
theorem mapM_renderSegment_of_failure {segments : List Segment}
    {before after : List DirectiveLine} {d : DirectiveLine} {cause : ExtractionError}
    (hDirectives : directivesOf segments = before ++ d :: after)
    (hBefore : ∀ x ∈ before, ∃ em, e.outcome x = .ok em) (hd : e.outcome d = .error cause) :
    segments.mapM e.renderSegment = .error (.directive d.line d.text cause) := by
  induction segments generalizing before with
  | nil => simp [directivesOf] at hDirectives
  | cons s rest ih =>
    cases s with
    | text t =>
      have hRest := ih hDirectives hBefore
      rw [List.mapM_cons, hRest]
      rfl
    | block b =>
      have hSplit : b.directives ++ directivesOf rest = before ++ d :: after := hDirectives
      rcases List.append_eq_append_iff.1 hSplit with
        ⟨later, rfl, hRest⟩ | ⟨later, hBlock, hLater⟩
      · -- the block is done before the directive is reached
        obtain ⟨text, hText, -⟩ := renderBlock_of_success fun x hx =>
          hBefore x (List.mem_append_left _ hx)
        have hFailure := ih hRest fun x hx => hBefore x (List.mem_append_right _ hx)
        rw [List.mapM_cons, hText, hFailure]
        rfl
      · cases later with
        | nil =>
          -- the block ends right before the directive
          rw [List.append_nil] at hBlock
          obtain ⟨text, hText, -⟩ := renderBlock_of_success fun x hx => hBefore x (hBlock ▸ hx)
          have hRest : directivesOf rest = [] ++ d :: after := hLater.symm
          have hFailure := ih hRest (by simp)
          rw [List.mapM_cons, hText, hFailure]
          rfl
        | cons x later =>
          obtain ⟨rfl, -⟩ := List.cons.inj hLater
          rw [List.mapM_cons, renderBlock_of_failure hBlock hBefore hd]
          rfl

theorem mapM_renderSegment_of_success {segments : List Segment}
    (h : ∀ d ∈ directivesOf segments, ∃ em, e.outcome d = .ok em) :
    ∃ texts, segments.mapM e.renderSegment = .ok texts ∧ List.Forall₂ e.Yields segments texts := by
  induction segments with
  | nil => exact ⟨[], rfl, .nil⟩
  | cons s rest ih =>
    obtain ⟨texts, hMap, hAll⟩ := ih fun d hd => h d (List.mem_append_right _ hd)
    obtain ⟨text, hText, hYields⟩ : ∃ text, e.renderSegment s = .ok text ∧ e.Yields s text := by
      cases s with
      | text t => exact ⟨t, rfl, .text t⟩
      | block b => exact renderBlock_of_success fun d hd => h d (List.mem_append_left _ hd)
    refine ⟨text :: texts, ?_, .cons hYields hAll⟩
    rw [List.mapM_cons, hText, hMap]
    rfl

/-! ## Renderings -/

theorem render_of_fault {source : String} {fault : ScanError}
    (h : e.markers.scan source = .error fault) : e.render source = .error (.scan fault) := by
  rw [render, h]
  rfl

theorem render_eq_renderAll {source : String} {segments : List Segment}
    (h : e.markers.scan source = .ok segments) : e.render source = e.renderAll segments := by
  rw [render, h, renderAll]
  show (do return String.join (← segments.mapM e.renderSegment)) = _
  cases segments.mapM e.renderSegment <;> rfl

/-- **Rendering fails fast.** A fault of the template decides before any directive is carried out.
Otherwise a rendering fails exactly if some directive does, and then with the error of the first
such directive and the place where it stands; and if none fails, the output is that of the
segments, one after the other. -/
theorem render_fails_fast (e : Engine) (source : String) :
    (∀ fault, e.markers.scan source = .error fault → e.render source = .error (.scan fault)) ∧
    ∀ segments, e.markers.scan source = .ok segments →
      (∀ d ∈ directivesOf segments, Stands e.markers 1 (Text.lines source.toList) d) ∧
      ((∃ err, e.render source = .error err) ↔
        ∃ d ∈ directivesOf segments, ∃ cause, e.outcome d = .error cause) ∧
      (∀ before d after cause, directivesOf segments = before ++ d :: after →
        (∀ x ∈ before, ∃ em, e.outcome x = .ok em) → e.outcome d = .error cause →
        e.render source = .error (.directive d.line d.text cause)) ∧
      ((∀ d ∈ directivesOf segments, ∃ em, e.outcome d = .ok em) →
        ∃ texts, List.Forall₂ e.Yields segments texts ∧
          e.render source = .ok (String.join texts)) := by
  refine ⟨fun fault => render_of_fault, fun segments hScan => ?_⟩
  have hFailure : ∀ before d after cause, directivesOf segments = before ++ d :: after →
      (∀ x ∈ before, ∃ em, e.outcome x = .ok em) → e.outcome d = .error cause →
      e.render source = .error (.directive d.line d.text cause) := by
    intro before d after cause hDirectives hBefore hd
    rw [render_eq_renderAll hScan, renderAll, mapM_renderSegment_of_failure hDirectives hBefore hd]
    rfl
  have hSuccess : (∀ d ∈ directivesOf segments, ∃ em, e.outcome d = .ok em) →
      ∃ texts, List.Forall₂ e.Yields segments texts ∧ e.render source = .ok (String.join texts) := by
    intro h
    obtain ⟨texts, hMap, hAll⟩ := mapM_renderSegment_of_success h
    refine ⟨texts, hAll, ?_⟩
    rw [render_eq_renderAll hScan, renderAll, hMap]
    rfl
  refine ⟨?_, ⟨?_, ?_⟩, hFailure, hSuccess⟩
  · intro d hd
    obtain ⟨spans, waiting, hLines, hTiling⟩ := exists_tiling_of_scan hScan
    rw [← hLines]
    exact stands_of_tiling hTiling hd
  · rintro ⟨err, hErr⟩
    rcases first_failure e.outcome (directivesOf segments) with
      hNone | ⟨before, d, after, cause, hDirectives, -, hd⟩
    · obtain ⟨texts, -, hOk⟩ := hSuccess hNone
      rw [hOk] at hErr
      cases hErr
    · exact ⟨d, by simp [hDirectives], cause, hd⟩
  · rintro ⟨d, hd, cause, hCause⟩
    rcases first_failure e.outcome (directivesOf segments) with
      hNone | ⟨before, first, after, cause', hDirectives, hBefore, hFirst⟩
    · obtain ⟨em, hOk⟩ := hNone d hd
      rw [hOk] at hCause
      cases hCause
    · exact ⟨_, hFailure before first after cause' hDirectives hBefore hFirst⟩

end Engine

end HeaderFacts

import HeaderFacts.Proofs.Rendering

/-!
# Rendering is compositional

A template that ends with a whole line, outside of blocks and inert regions, does not reach into a
template after it. Scanning both is scanning one after the other, where text that meets text is made
one and the second has later line numbers; and rendering both is rendering one after the other.

Main definitions:

* `Markers.endsInert` — whether the end of a source lies in an inert region.
* `TemplateError.shift` — an error some lines further down.

Main results:

* `scan_append` — scans of two sources, one after the other.
* `renderAll_glue`, `renderAll_shift` — segments put together, and segments further down.
* `render_append_of_closed` — renderings of two sources, one after the other.
-/

namespace HeaderFacts

/-! ## Scans one after the other -/

section Scans

variable {m : Markers}

/-- Whether a scan of the source ends inside an inert region. -/
def Markers.endsInert (m : Markers) (source : String) : Bool :=
  match (Place.outside []).run m 1 (Text.lines source.toList) with
  | .ok (_, .inert _ _) => true
  | _ => false

/-- The delimiter that a tiling waits for is the one that the scan waits for. -/
theorem run_tiling {n : Nat} {spans : List (List (List Char))} {segments : List Segment}
    {waiting : Option (List Char)} (h : Tiling m n spans segments waiting)
    (acc : List (List Char)) :
    ∃ done text, (Place.outside acc).run m n spans.flatten = .ok (done, .ofText waiting text) := by
  induction h generalizing acc with
  | done => exact ⟨[], acc, rfl⟩
  | @text n span spans segments waiting hSpan hText hRest hNext ih =>
    obtain ⟨done, text, hRun⟩ := ih (span.reverse ++ acc)
    refine ⟨[] ++ done, text, ?_⟩
    rw [List.flatten_cons, run_append_ok (run_verbatim hText n acc), Place.ofText, hRun]
    rfl
  | @openText n span closing hText =>
    refine ⟨[], span.reverse ++ acc, ?_⟩
    rw [List.flatten_singleton, run_verbatim hText]
  | @block n first body last directives spans segments waiting hStart hBody hEnd hDirectives hRest
      ih =>
    obtain ⟨done, text, hRun⟩ := ih []
    have hLength : n + (first :: (body ++ [last])).length = n + (body.length + 2) := by simp
    refine ⟨(textSegment acc ++ [.block ⟨n, directives⟩]) ++ done, text, ?_⟩
    rw [List.flatten_cons, run_append_ok (run_block hStart hBody hEnd hDirectives acc), hLength,
      hRun]
    rfl

theorem waiting_eq_none {source : String} {spans : List (List (List Char))}
    {segments : List Segment} {waiting : Option (List Char)}
    (hLines : spans.flatten = Text.lines source.toList) (h : Tiling m 1 spans segments waiting)
    (hClosed : m.endsInert source = false) : waiting = none := by
  cases waiting with
  | none => rfl
  | some closing =>
    obtain ⟨done, text, hRun⟩ := run_tiling h []
    rw [hLines] at hRun
    rw [Markers.endsInert, hRun] at hClosed
    cases hClosed

/-- **Scans one after the other.** After a source that ends with a whole line and outside of inert
regions, a second source is scanned as if it stood alone, further down. -/
theorem scan_append {s t : String} {segments : List Segment}
    (hNewline : s = "" ∨ s.toList.getLast? = some '\n') (hScan : m.scan s = .ok segments)
    (hClosed : m.endsInert s = false) :
    m.scan (s ++ t) =
      ((m.scan t).mapError (·.shift (Text.lines s.toList).length)).map fun later =>
        glue segments (later.map (·.shift (Text.lines s.toList).length)) := by
  obtain ⟨spans, waiting, hLines, hTiling⟩ := exists_tiling_of_scan hScan
  have hWaiting := waiting_eq_none hLines hTiling hClosed
  have hEnd : s.toList = [] ∨ s.toList.getLast? = some '\n' :=
    hNewline.imp_left String.toList_eq_nil_iff.2
  rw [Markers.scan, Markers.scan, String.toList_append, Text.lines_append hEnd, ← hLines,
    scanFrom_tiling_append hTiling (Or.inl hWaiting)]
  have hShift := scanFrom_shift (m := m) spans.flatten.length 1 (.outside [])
    (Text.lines t.toList)
  rw [show (Place.outside []).shift spans.flatten.length = .outside [] from rfl] at hShift
  rw [hShift]
  cases scanFrom m 1 (.outside []) (Text.lines t.toList) <;> rfl

end Scans

/-! ## Renderings one after the other -/

/-- An error some lines further down in a template. -/
def TemplateError.shift (k : Nat) : TemplateError → TemplateError
  | directive line text cause => directive (line + k) text cause
  | scan cause => scan (cause.shift k)
  | unreadable path reason => unreadable path reason

namespace Engine

variable (e : Engine)

theorem renderAll_cons (s : Segment) (rest : List Segment) :
    e.renderAll (s :: rest) = do return (← e.renderSegment s) ++ (← e.renderAll rest) := by
  rw [renderAll, renderAll, List.mapM_cons]
  cases e.renderSegment s with
  | error err => rfl
  | ok text =>
    cases rest.mapM e.renderSegment with
    | error err => rfl
    | ok texts => exact congrArg Except.ok String.join_cons

theorem renderAll_text (t : String) (rest : List Segment) :
    e.renderAll (.text t :: rest) = (e.renderAll rest).map (t ++ ·) := by
  rw [renderAll_cons, renderSegment]
  cases e.renderAll rest <;> rfl

/-- Segments put together are rendered one after the other. -/
theorem renderAll_glue (a b : List Segment) :
    e.renderAll (glue a b) = do return (← e.renderAll a) ++ (← e.renderAll b) := by
  have hCons (s : Segment) (rest : List Segment) (h : glue (s :: rest) b = s :: glue rest b)
      (ih : e.renderAll (glue rest b) = do return (← e.renderAll rest) ++ (← e.renderAll b)) :
      e.renderAll (glue (s :: rest) b) = do
        return (← e.renderAll (s :: rest)) ++ (← e.renderAll b) := by
    rw [h, renderAll_cons, renderAll_cons, ih]
    cases e.renderSegment s with
    | error err => rfl
    | ok text =>
      cases e.renderAll rest with
      | error err => rfl
      | ok front =>
        cases e.renderAll b with
        | error err => rfl
        | ok back => exact congrArg Except.ok String.append_assoc.symm
  match a, b with
  | [], b =>
    rw [glue_nil]
    cases h : e.renderAll b with
    | error err => rfl
    | ok back => exact congrArg Except.ok String.empty_append.symm
  | .block c :: rest, b => exact hCons _ _ (glue_block c rest b) (renderAll_glue rest b)
  | .text t :: s :: rest, b =>
    exact hCons _ _ (glue_text_cons t s rest b) (renderAll_glue (s :: rest) b)
  | [.text t], .text u :: b =>
    rw [glue_text_text, renderAll_text, renderAll_text, renderAll_text]
    cases e.renderAll b with
    | error err => rfl
    | ok back =>
      show Except.ok (t ++ u ++ back) = Except.ok (t ++ "" ++ (u ++ back))
      rw [String.append_empty, String.append_assoc]
  | [.text t], [] => exact hCons _ _ rfl (renderAll_glue [] [])
  | [.text t], .block c :: b => exact hCons _ _ rfl (renderAll_glue [] (.block c :: b))

theorem evaluate_shift (k : Nat) (d : DirectiveLine) :
    e.evaluate (d.shift k) = (e.evaluate d).mapError (·.shift k) := by
  rw [evaluate, evaluate, DirectiveLine.shift]
  cases e.registry.evaluateLine e.service e.largeFile d.text <;> rfl

/-- A map that commutes with a change of errors does so over a whole list. -/
theorem mapM_mapError {ε α β : Type} {f : α → Except ε β} {move : α → α} {moveError : ε → ε}
    (h : ∀ x, f (move x) = (f x).mapError moveError) (l : List α) :
    (l.map move).mapM f = (l.mapM f).mapError moveError := by
  induction l with
  | nil => rfl
  | cons x rest ih =>
    rw [List.map_cons, List.mapM_cons, List.mapM_cons, h, ih]
    cases f x with
    | error err => rfl
    | ok y => cases rest.mapM f <;> rfl

theorem renderSegment_shift (k : Nat) (s : Segment) :
    e.renderSegment (s.shift k) = (e.renderSegment s).mapError (·.shift k) := by
  cases s with
  | text t => rfl
  | block b =>
    rw [Segment.shift, renderSegment, renderSegment, renderBlock, renderBlock, Block.shift,
      mapM_mapError (e.evaluate_shift k)]
    cases b.directives.mapM e.evaluate <;> rfl

/-- Segments further down have the same text or the same error, further down. -/
theorem renderAll_shift (k : Nat) (segments : List Segment) :
    e.renderAll (segments.map (·.shift k)) = (e.renderAll segments).mapError (·.shift k) := by
  rw [renderAll, renderAll, mapM_mapError (e.renderSegment_shift k)]
  cases segments.mapM e.renderSegment <;> rfl

variable {e}

/-- **Rendering is compositional.** After a source that ends with a whole line, outside of blocks
and inert regions, a second source is scanned and rendered as if it stood alone, further down. -/
theorem render_append_of_closed (e : Engine) {s t : String} {segments : List Segment}
    (hNewline : s = "" ∨ s.toList.getLast? = some '\n')
    (hScan : e.markers.scan s = .ok segments) (hClosed : e.markers.endsInert s = false) :
    let k := (Text.lines s.toList).length
    ((∃ both, e.markers.scan (s ++ t) = .ok both) ↔ ∃ later, e.markers.scan t = .ok later) ∧
    (∀ later, e.markers.scan t = .ok later →
      e.markers.scan (s ++ t) = .ok (glue segments (later.map (·.shift k)))) ∧
    (∀ fault, e.markers.scan t = .error fault →
      e.markers.scan (s ++ t) = .error (fault.shift k)) ∧
    (∀ front back, e.render s = .ok front → e.render t = .ok back →
      e.render (s ++ t) = .ok (front ++ back)) ∧
    (∀ err later, e.render s = .error err → e.markers.scan t = .ok later →
      e.render (s ++ t) = .error err) ∧
    (∀ err front, e.render s = .ok front → e.render t = .error err →
      e.render (s ++ t) = .error (err.shift k)) := by
  intro k
  have hAppend := scan_append (t := t) hNewline hScan hClosed
  have hOk : ∀ later, e.markers.scan t = .ok later →
      e.markers.scan (s ++ t) = .ok (glue segments (later.map (·.shift k))) := by
    intro later hLater
    rw [hAppend, hLater]
    rfl
  have hError : ∀ fault, e.markers.scan t = .error fault →
      e.markers.scan (s ++ t) = .error (fault.shift k) := by
    intro fault hFault
    rw [hAppend, hFault]
    rfl
  -- what both are rendered to, where the second can be scanned
  have hBoth : ∀ later, e.markers.scan t = .ok later → e.render (s ++ t) = do
      return (← e.render s) ++ (← (e.render t).mapError (·.shift k)) := by
    intro later hLater
    rw [render_eq_renderAll (hOk later hLater), render_eq_renderAll hScan,
      render_eq_renderAll hLater, renderAll_glue, renderAll_shift]
  refine ⟨⟨?_, ?_⟩, hOk, hError, ?_, ?_, ?_⟩
  · rintro ⟨both, hScanBoth⟩
    cases hLater : e.markers.scan t with
    | ok later => exact ⟨later, rfl⟩
    | error fault =>
      rw [hError fault hLater] at hScanBoth
      cases hScanBoth
  · rintro ⟨later, hLater⟩
    exact ⟨_, hOk later hLater⟩
  · intro front back hFront hBack
    cases hLater : e.markers.scan t with
    | ok later =>
      rw [hBoth later hLater, hFront, hBack]
      rfl
    | error fault =>
      rw [render_of_fault hLater] at hBack
      cases hBack
  · intro err later hFront hLater
    rw [hBoth later hLater, hFront]
    rfl
  · intro err front hFront hBack
    cases hLater : e.markers.scan t with
    | ok later =>
      rw [hBoth later hLater, hFront, hBack]
      rfl
    | error fault =>
      rw [render_of_fault hLater] at hBack
      cases hBack
      rw [render_of_fault (hError fault hLater)]
      rfl

/-- A failing directive after a block, an inert region and text that meets text. -/
theorem render_append_of_closed_unknownModule :
    let e : Engine := { service := fun r => .error (.headerNotFound (r.headers.headD "")) }
    let s := "/* a\n@@end\n*/\n@@extract\n\n@@end\nb\n"
    let t := "c\n@@extract\n\nnope \\\n h\n@@end\n"
    e.markers.scan s = .ok [.text "/* a\n@@end\n*/\n", .block ⟨4, []⟩, .text "b\n"] ∧
      e.markers.endsInert s = false ∧
      e.render (s ++ t) = .error (.directive 11 "nope h" (.malformed (.unknownModule "nope"))) := by
  intro e s t
  have hNewline : s = "" ∨ s.toList.getLast? = some '\n' := Or.inr (by decide +kernel)
  have hScan : e.markers.scan s =
      .ok [.text "/* a\n@@end\n*/\n", .block ⟨4, []⟩, .text "b\n"] := by
    decide +kernel
  have hClosed : e.markers.endsInert s = false := by decide +kernel
  have hFront : e.render s = .ok "/* a\n@@end\n*/\nb\n" := by decide +kernel
  have hBack : e.render t =
      .error (.directive 4 "nope h" (.malformed (.unknownModule "nope"))) := by
    decide +kernel
  obtain ⟨-, -, -, -, -, hFails⟩ := render_append_of_closed e (t := t) hNewline hScan hClosed
  have hLines : (Text.lines s.toList).length = 7 := by decide +kernel
  have hBoth := hFails _ _ hFront hBack
  rw [hLines] at hBoth
  exact ⟨hScan, hClosed, hBoth⟩

end Engine

end HeaderFacts

import HeaderFacts.Proofs.Scanning
import Mathlib.Data.Nat.Find

/-!
# Faults of a template

A template is read line by line, and a line stands outside, in a block or in an inert region. Where
it stands is a matter of the lines before it alone, whatever the directives among them come to. A
fault is an end marker outside of blocks, a directive that should go on where its block or the
template ends, or a block that the template ends in. A scan fails exactly on the templates with a
fault, and it names the first one: the line of a stray end marker, the line in which the unfinished
directive began, or the line of the start marker.

Main definitions:

* `Markers.Opens` — a line that opens an inert region, and the delimiter that closes it.
* `Zone`, `Zone.Next`, `InZone` — where a line stands.
* `Unfinished` — a directive that goes on after some lines, and where it began.
* `FaultAt` — the faults of a template.

Main results:

* `InZone.unique` — a line stands in one zone.
* `Agrees.step` — a scan keeps track of the zone and of the unfinished directive.
* `scan_eq_error_iff_fault` — a scan reports the first fault, and fails only on a fault.
-/

namespace HeaderFacts

/-! ## Inert regions -/

namespace Markers

/-- A line that begins, behind its blanks, with the opening delimiter of a region that does not
close in the rest of it. -/
def OpensRegion (line : List Char) (region : InertRegion) : Prop :=
  ∃ rest, Text.trimStart (Text.lineBody line) = region.opening.toList ++ rest ∧
    ¬ region.closing.toList <:+: rest

/-- A line that opens an inert region, which lasts until `closing`: the first configured one that
begins there. -/
def Opens (m : Markers) (line closing : List Char) : Prop :=
  ∃ before region after, m.inert = before ++ region :: after ∧
    (∀ other ∈ before, ¬ OpensRegion line other) ∧ OpensRegion line region ∧
    closing = region.closing.toList

theorem waitsFor?_eq_some_iff {line closing : List Char} {region : InertRegion} :
    waitsFor? (Text.trimStart (Text.lineBody line)) region = some closing ↔
      OpensRegion line region ∧ closing = region.closing.toList := by
  unfold waitsFor? OpensRegion
  cases hStrip : Text.stripStart? region.opening.toList (Text.trimStart (Text.lineBody line)) with
  | none =>
    refine iff_of_false (by simp) ?_
    rintro ⟨⟨rest, hRest, -⟩, -⟩
    rw [Text.stripStart?_eq_some.2 hRest] at hStrip
    cases hStrip
  | some rest =>
    have hRest := Text.stripStart?_eq_some.1 hStrip
    -- the rest of the line is the only one that there is
    have hSole (other : List Char) :
        Text.trimStart (Text.lineBody line) = region.opening.toList ++ other ↔ other = rest := by
      rw [hRest, List.append_cancel_left_eq]
      exact eq_comm
    simp only [hSole, exists_eq_left, ← Text.occursIn_iff]
    by_cases hCloses : Text.occursIn region.closing.toList rest = true
    · simp [hCloses]
    · simp [hCloses, eq_comm]

theorem waitsFor?_eq_none_iff {line : List Char} {region : InertRegion} :
    waitsFor? (Text.trimStart (Text.lineBody line)) region = none ↔ ¬ OpensRegion line region := by
  rw [Option.eq_none_iff_forall_ne_some]
  constructor
  · intro hNone hOpens
    exact hNone _ (waitsFor?_eq_some_iff.2 ⟨hOpens, rfl⟩)
  · intro hNone closing hSome
    exact hNone (waitsFor?_eq_some_iff.1 hSome).1

theorem opensInert?_eq_some_iff {m : Markers} {line closing : List Char} :
    m.opensInert? (Text.lineBody line) = some closing ↔ m.Opens line closing := by
  rw [opensInert?, List.findSome?_eq_some_iff]
  simp only [waitsFor?_eq_some_iff, waitsFor?_eq_none_iff]
  constructor
  · rintro ⟨before, region, after, hInert, ⟨hOpens, hClosing⟩, hBefore⟩
    exact ⟨before, region, after, hInert, hBefore, hOpens, hClosing⟩
  · rintro ⟨before, region, after, hInert, hBefore, hOpens, hClosing⟩
    exact ⟨before, region, after, hInert, ⟨hOpens, hClosing⟩, hBefore⟩

theorem opensInert?_eq_none_iff {m : Markers} {line : List Char} :
    m.opensInert? (Text.lineBody line) = none ↔ ∀ closing, ¬ m.Opens line closing := by
  rw [Option.eq_none_iff_forall_ne_some]
  exact forall_congr' fun closing => not_congr opensInert?_eq_some_iff

end Markers

/-! ## Zones -/

/-- Where a line of a template stands: outside, in the block whose start marker has the number
`start`, or in an inert region that lasts through the next line with `closing` in it. -/
inductive Zone where
  | outside
  | block (start : Nat)
  | inert (closing : List Char)

/-- The zone of a line and that of the next one; `n` is the number of the line. A stray end marker
changes nothing. -/
inductive Zone.Next (m : Markers) (n : Nat) (line : List Char) : Zone → Zone → Prop
  | start (hStart : m.IsStart line) : Next m n line .outside (.block n)
  | strayEnd (hStart : ¬ m.IsStart line) (hEnd : m.IsEnd line) : Next m n line .outside .outside
  | text (hStart : ¬ m.IsStart line) (hEnd : ¬ m.IsEnd line)
      (hOpens : ∀ closing, ¬ m.Opens line closing) : Next m n line .outside .outside
  | opening {closing} (hStart : ¬ m.IsStart line) (hEnd : ¬ m.IsEnd line)
      (hOpens : m.Opens line closing) : Next m n line .outside (.inert closing)
  | hidden {closing} (hCloses : ¬ closing <:+: Text.lineBody line) :
      Next m n line (.inert closing) (.inert closing)
  | last {closing} (hCloses : closing <:+: Text.lineBody line) :
      Next m n line (.inert closing) .outside
  | directive {start} (hEnd : ¬ m.IsEnd line) : Next m n line (.block start) (.block start)
  | blockEnd {start} (hEnd : m.IsEnd line) : Next m n line (.block start) .outside

/-- The zone of the line after the first `i` lines. -/
inductive InZone (m : Markers) (lines : List (List Char)) : Nat → Zone → Prop
  | first : InZone m lines 0 .outside
  | next {i line zone after} (hBefore : InZone m lines i zone) (hLine : lines[i]? = some line)
      (hNext : zone.Next m (i + 1) line after) : InZone m lines (i + 1) after

variable {m : Markers} {lines : List (List Char)} {line : List Char} {i n : Nat}

theorem Zone.Next.unique {zone a b : Zone} (ha : zone.Next m n line a) (hb : zone.Next m n line b) :
    a = b := by
  -- outside, the tests are made in one order: start marker, end marker, inert region
  cases ha with
  | start hStart =>
    cases hb with
    | start => rfl
    | strayEnd hOther => exact absurd hStart hOther
    | text hOther => exact absurd hStart hOther
    | opening hOther => exact absurd hStart hOther
  | strayEnd hStart hEnd =>
    cases hb with
    | start hOther => exact absurd hOther hStart
    | strayEnd => rfl
    | text => rfl
    | opening _ hOther => exact absurd hEnd hOther
  | text hStart hEnd hOpens =>
    cases hb with
    | start hOther => exact absurd hOther hStart
    | strayEnd => rfl
    | text => rfl
    | opening _ _ hOther => exact absurd hOther (hOpens _)
  | opening hStart hEnd hOpens =>
    cases hb with
    | start hOther => exact absurd hOther hStart
    | strayEnd _ hOther => exact absurd hOther hEnd
    | text _ _ hOther => exact absurd hOpens (hOther _)
    | opening _ _ hOther =>
      rw [← Markers.opensInert?_eq_some_iff] at hOpens hOther
      rw [Option.some.inj (hOpens.symm.trans hOther)]
  | hidden hCloses =>
    cases hb with
    | hidden => rfl
    | last hOther => exact absurd hOther hCloses
  | last hCloses =>
    cases hb with
    | hidden hOther => exact absurd hCloses hOther
    | last => rfl
  | directive hEnd =>
    cases hb with
    | directive => rfl
    | blockEnd hOther => exact absurd hOther hEnd
  | blockEnd hEnd =>
    cases hb with
    | directive hOther => exact absurd hEnd hOther
    | blockEnd => rfl

/-- A line stands in one zone. -/
theorem InZone.unique {a b : Zone} (ha : InZone m lines i a) (hb : InZone m lines i b) : a = b := by
  induction ha generalizing b with
  | first =>
    cases hb
    rfl
  | @next i line zone after hBefore hLine hNext ih =>
    cases hb with
    | @next _ other zone' _ hBefore' hLine' hNext' =>
      obtain rfl : zone = zone' := ih hBefore'
      obtain rfl : line = other := Option.some.inj (hLine.symm.trans hLine')
      exact hNext.unique hNext'

theorem InZone.le_length {zone : Zone} (h : InZone m lines i zone) : i ≤ lines.length := by
  cases h with
  | first => exact Nat.zero_le _
  | next hBefore hLine hNext =>
    obtain ⟨hi, -⟩ := List.getElem?_eq_some_iff.1 hLine
    exact hi

/-! ## Unfinished directives -/

/-- A directive that should go on after the first `i` lines, in the block whose start marker has the
number `start`. It began after the first `before` lines: all lines from there on continue it, and
the one in front of them continues nothing, unless it is the start marker. -/
structure Unfinished (m : Markers) (lines : List (List Char)) (start i before : Nat) : Prop where
  start_le : start ≤ before
  lt : before < i
  continues : ∀ k, before ≤ k → k < i → ∃ line, lines[k]? = some line ∧ m.Continues line
  begins : ∀ k line, start ≤ k → k + 1 = before → lines[k]? = some line → ¬ m.Continues line

theorem Unfinished.unique {start a b : Nat} (ha : Unfinished m lines start i a)
    (hb : Unfinished m lines start i b) : a = b := by
  -- the line in front of the later one would continue the earlier one
  have hNotBefore {a b : Nat} (ha : Unfinished m lines start i a)
      (hb : Unfinished m lines start i b) : ¬ a < b := by
    intro hlt
    obtain ⟨k, hk⟩ : ∃ k, k + 1 = b := ⟨b - 1, by omega⟩
    have hStart := ha.start_le
    have hEnd := hb.lt
    obtain ⟨line, hLine, hContinues⟩ := ha.continues k (by omega) (by omega)
    exact hb.begins k line (by omega) hk hLine hContinues
  have hab := hNotBefore ha hb
  have hba := hNotBefore hb ha
  omega

/-- Which directive is pending after the first `i` lines, in the block whose start marker has the
number `start`; none is if the last line of the block so far continues nothing. -/
def PendingAfter (m : Markers) (lines : List (List Char)) (start i : Nat) : Option Pending → Prop
  | some p => ∃ before, Unfinished m lines start i before ∧ p.line = before + 1
  | none => ∀ k line, start ≤ k → k + 1 = i → lines[k]? = some line → ¬ m.Continues line

theorem PendingAfter.not_unfinished {start before : Nat} (h : PendingAfter m lines start i none) :
    ¬ Unfinished m lines start i before := by
  intro hOpen
  have hStart := hOpen.start_le
  have hLast := hOpen.lt
  obtain ⟨k, hk⟩ : ∃ k, k + 1 = i := ⟨i - 1, by omega⟩
  obtain ⟨line, hLine, hContinues⟩ := hOpen.continues k (by omega) (by omega)
  exact h k line (by omega) hk hLine hContinues

/-- One more line that continues a directive: the pending one, or one that begins with it. -/
theorem PendingAfter.continued {start : Nat} {pending : Option Pending} {body : List Char}
    (h : PendingAfter m lines start i pending) (hStart : start ≤ i) (hLine : lines[i]? = some line)
    (hContinues : m.Continues line) :
    PendingAfter m lines start (i + 1) (some ((pending.map (·.join body)).getD ⟨i + 1, body⟩)) := by
  cases pending with
  | none =>
    -- the line in front continues nothing, so the directive begins with this one
    refine ⟨i, ⟨hStart, by omega, ?_, h⟩, rfl⟩
    intro k hFrom hTo
    obtain rfl : k = i := by omega
    exact ⟨line, hLine, hContinues⟩
  | some p =>
    obtain ⟨before, hOpen, hNumber⟩ := h
    have hLast := hOpen.lt
    refine ⟨before, ⟨hOpen.start_le, by omega, ?_, hOpen.begins⟩, (p.line_join body).trans hNumber⟩
    intro k hFrom hTo
    by_cases hk : k < i
    · exact hOpen.continues k hFrom hk
    · obtain rfl : k = i := by omega
      exact ⟨line, hLine, hContinues⟩

/-- After a line that continues nothing, nothing is pending. -/
theorem pendingAfter_none {start : Nat} (hLine : lines[i]? = some line) (h : ¬ m.Continues line) :
    PendingAfter m lines start (i + 1) none := by
  intro k other hStart hk hOther
  obtain rfl : k = i := by omega
  obtain rfl : line = other := Option.some.inj (hLine.symm.trans hOther)
  exact h

/-! ## Faults -/

/-- The faults of a template, each with the number of lines in front of the place where it shows: an
end marker outside of blocks, the end of a block or of the template where a directive should go on,
and the end of the template in a block. -/
inductive FaultAt (m : Markers) (lines : List (List Char)) : Nat → ScanError → Prop
  | strayEnd {i : Nat} {line : List Char} (hZone : InZone m lines i .outside)
      (hLine : lines[i]? = some line) (hStart : ¬ m.IsStart line) (hEnd : m.IsEnd line) :
      FaultAt m lines i (.strayBlockEnd (i + 1))
  | dangling {i start before : Nat} (hZone : InZone m lines i (.block start))
      (hOpen : Unfinished m lines start i before)
      (hStops : ∀ line, lines[i]? = some line → m.IsEnd line) :
      FaultAt m lines i (.danglingContinuation (before + 1))
  | unterminated {start} (hZone : InZone m lines lines.length (.block start))
      (hDone : ∀ before, ¬ Unfinished m lines start lines.length before) :
      FaultAt m lines lines.length (.unterminatedBlock start)

theorem FaultAt.le_length {e : ScanError} (h : FaultAt m lines i e) : i ≤ lines.length := by
  cases h with
  | strayEnd hZone => exact hZone.le_length
  | dangling hZone => exact hZone.le_length
  | unterminated hZone => exact hZone.le_length

/-- A template with a fault has a first one. -/
theorem FaultAt.exists_first {e : ScanError} (h : FaultAt m lines i e) :
    ∃ j other, FaultAt m lines j other ∧ ∀ k < j, ∀ another, ¬ FaultAt m lines k another := by
  classical
  have hSome : ∃ j, ∃ other, FaultAt m lines j other := ⟨i, e, h⟩
  obtain ⟨other, hOther⟩ := Nat.find_spec hSome
  refine ⟨Nat.find hSome, other, hOther, ?_⟩
  intro k hk another hAnother
  exact Nat.find_min hSome hk ⟨another, hAnother⟩

/-! ## Scans -/

/-- The zone of a place. -/
def Place.zone : Place → Zone
  | outside _ => .outside
  | inert closing _ => .inert closing
  | inside start _ _ => .block start

/-- A place that a scan can stand at after the first `i` lines. -/
structure Agrees (m : Markers) (lines : List (List Char)) (i : Nat) (p : Place) : Prop where
  inZone : InZone m lines i p.zone
  pendingAfter : ∀ start directives pending, p = .inside start directives pending →
    start ≤ i ∧ PendingAfter m lines start i pending

theorem agrees_start : Agrees m lines 0 (.outside []) :=
  ⟨.first, by simp⟩

/-- A line inside a block keeps track of the directive that goes on after it. -/
theorem pendingAfter_scanDirective {start : Nat} {directives directives' : List DirectiveLine}
    {pending pending' : Option Pending} (h : PendingAfter m lines start i pending)
    (hStart : start ≤ i) (hLine : lines[i]? = some line)
    (hPlace : scanDirective m (i + 1) start directives pending (trimmedLine line) =
      .inside start directives' pending') : PendingAfter m lines start (i + 1) pending' := by
  unfold scanDirective at hPlace
  by_cases hContinues : m.Continues line
  · -- a line that continues a directive is not blank
    have hNonblank : (trimmedLine line).isEmpty = false := by
      obtain ⟨hMarker, hSuffix⟩ := hContinues
      rw [List.isEmpty_eq_false_iff]
      intro hBlank
      rw [hBlank, List.suffix_nil] at hSuffix
      exact hMarker hSuffix
    rw [hNonblank, Markers.continued?_of_continues hContinues] at hPlace
    cases hPlace
    exact h.continued hStart hLine hContinues
  · have hNothing : pending' = none := by
      split at hPlace
      · cases hPlace
        rfl
      · rw [Markers.continued?_of_not_continues hContinues] at hPlace
        cases hPlace
        rfl
    rw [hNothing]
    exact pendingAfter_none hLine hContinues

/-- A line takes a scan on to the next zone. -/
theorem Place.zone_next {p next : Place} {done : List Segment}
    (hStep : p.step m n line = .ok (done, next)) : p.zone.Next m n line next.zone := by
  cases stepped_of_eq hStep with
  | start hStart => exact .start hStart
  | text hStart hEnd hOpens => exact .text hStart hEnd (Markers.opensInert?_eq_none_iff.1 hOpens)
  | opening hStart hEnd hOpens =>
    exact .opening hStart hEnd (Markers.opensInert?_eq_some_iff.1 hOpens)
  | hidden hCloses => exact .hidden hCloses
  | closing hCloses => exact .last hCloses
  | blockEnd hEnd => exact .blockEnd hEnd
  | directive hEnd => exact .directive hEnd

/-- **One line.** A scan keeps track of the zone and of the unfinished directive. -/
theorem Agrees.step {p next : Place} {done : List Segment} (h : Agrees m lines i p)
    (hLine : lines[i]? = some line) (hStep : p.step m (i + 1) line = .ok (done, next)) :
    Agrees m lines (i + 1) next := by
  refine ⟨.next h.inZone hLine (Place.zone_next hStep), ?_⟩
  rintro start directives pending rfl
  -- only a start marker and the lines of a block lead into it
  cases Place.stepped_of_eq hStep with
  | start =>
    refine ⟨Nat.le_refl _, ?_⟩
    intro k other hFrom hk
    omega
  | directive hEnd hPlace =>
    obtain ⟨hStart, hPending⟩ := h.pendingAfter _ _ _ rfl
    exact ⟨by omega, pendingAfter_scanDirective hPending hStart hLine hPlace⟩

/-! ### Faults that a scan meets -/

/-- What a line is refused for is a fault. -/
theorem Agrees.faultAt_of_step {p : Place} {e : ScanError} (h : Agrees m lines i p)
    (hLine : lines[i]? = some line) (hStep : p.step m (i + 1) line = .error e) :
    FaultAt m lines i e := by
  cases Place.stepped_of_eq hStep with
  | strayEnd hStart hEnd => exact .strayEnd h.inZone hLine hStart hEnd
  | dangling hEnd =>
    obtain ⟨-, before, hOpen, hNumber⟩ := h.pendingAfter _ _ _ rfl
    rw [hNumber]
    refine .dangling h.inZone hOpen ?_
    intro other hOther
    rwa [← Option.some.inj (hLine.symm.trans hOther)]

/-- What the end of a template is refused for is a fault. -/
theorem Agrees.faultAt_of_finish {p : Place} {e : ScanError} (h : Agrees m lines lines.length p)
    (hFinish : p.finish = .error e) : FaultAt m lines lines.length e := by
  have hZone := h.inZone
  cases p with
  | outside text => cases hFinish
  | inert closing text => cases hFinish
  | inside start directives pending =>
    obtain ⟨-, hPending⟩ := h.pendingAfter _ _ _ rfl
    cases pending with
    | none =>
      cases hFinish
      exact .unterminated hZone fun before => hPending.not_unfinished
    | some pending =>
      obtain ⟨before, hOpen, hNumber⟩ := hPending
      have hError : e = .danglingContinuation pending.line := (Except.error.inj hFinish).symm
      rw [hError, hNumber]
      exact .dangling hZone hOpen (by simp)

/-- What is pending where a directive is unfinished. -/
theorem Agrees.pending_of_unfinished {start before : Nat} {p : Place} (h : Agrees m lines i p)
    (hZone : InZone m lines i (.block start)) (hOpen : Unfinished m lines start i before) :
    ∃ directives pending, p = .inside start directives (some pending) ∧
      pending.line = before + 1 := by
  have hPlace := h.inZone.unique hZone
  cases p with
  | outside text => cases hPlace
  | inert closing text => cases hPlace
  | inside start' directives pending =>
    cases hPlace
    obtain ⟨-, hPending⟩ := h.pendingAfter _ _ _ rfl
    cases pending with
    | none => exact absurd hOpen hPending.not_unfinished
    | some pending =>
      obtain ⟨before', hOpen', hNumber⟩ := hPending
      exact ⟨directives, pending, rfl, by rw [hNumber, hOpen'.unique hOpen]⟩

/-- A line with a fault is refused for it. -/
theorem Agrees.step_of_faultAt {p : Place} {e : ScanError} (h : Agrees m lines i p)
    (hLine : lines[i]? = some line) (hFault : FaultAt m lines i e) :
    p.step m (i + 1) line = .error e := by
  cases hFault with
  | @strayEnd i other hZone hOther hStart hEnd =>
    obtain rfl : line = other := Option.some.inj (hLine.symm.trans hOther)
    have hPlace := h.inZone.unique hZone
    cases p with
    | outside text => exact Place.step_strayEnd hStart hEnd
    | inert closing text => cases hPlace
    | inside start directives pending => cases hPlace
  | @dangling i start before hZone hOpen hStops =>
    obtain ⟨directives, pending, rfl, hNumber⟩ := h.pending_of_unfinished hZone hOpen
    rw [Place.step_dangling (hStops line hLine), hNumber]
  | unterminated hZone hDone =>
    rw [List.getElem?_eq_none (Nat.le_refl _)] at hLine
    cases hLine

/-- A template with a fault at its end is refused for it. -/
theorem Agrees.finish_of_faultAt {p : Place} {e : ScanError} (h : Agrees m lines lines.length p)
    (hFault : FaultAt m lines lines.length e) : p.finish = .error e := by
  cases hFault with
  | strayEnd hZone hLine =>
    rw [List.getElem?_eq_none (Nat.le_refl _)] at hLine
    cases hLine
  | dangling hZone hOpen hStops =>
    obtain ⟨directives, pending, rfl, hNumber⟩ := h.pending_of_unfinished hZone hOpen
    rw [Place.finish, hNumber]
  | @unterminated start hZone hDone =>
    have hPlace := h.inZone.unique hZone
    cases p with
    | outside text => cases hPlace
    | inert closing text => cases hPlace
    | inside start' directives pending =>
      cases hPlace
      obtain ⟨-, hPending⟩ := h.pendingAfter _ _ _ rfl
      cases pending with
      | none => rfl
      | some pending =>
        obtain ⟨before, hOpen, -⟩ := hPending
        exact absurd hOpen (hDone before)

/-! ### Runs -/

/-- The lines from one on: none at the end of a template, and that one with those after it. -/
theorem drop_cases (lines : List (List Char)) (hi : i ≤ lines.length) :
    (i = lines.length ∧ lines.drop i = []) ∨
      ∃ line, lines[i]? = some line ∧ lines.drop i = line :: lines.drop (i + 1) := by
  by_cases hEnd : i = lines.length
  · exact Or.inl ⟨hEnd, List.drop_eq_nil_of_le (by omega)⟩
  · have hInside : i < lines.length := by omega
    exact Or.inr ⟨lines[i], List.getElem?_eq_getElem hInside, List.drop_eq_getElem_cons hInside⟩

/-- **First faults.** A scan reports the first fault that is in front of it. -/
theorem Agrees.scanFrom_of_first {p : Place} {j : Nat} {e : ScanError} (h : Agrees m lines i p)
    (hij : i ≤ j) (hFault : FaultAt m lines j e)
    (hFirst : ∀ k, i ≤ k → k < j → ∀ other, ¬ FaultAt m lines k other) :
    scanFrom m (i + 1) p (lines.drop i) = .error e := by
  -- by the number of lines up to the fault
  induction hDistance : j - i generalizing i p with
  | zero =>
    obtain rfl : i = j := by omega
    rcases drop_cases lines hFault.le_length with ⟨rfl, hDrop⟩ | ⟨line, hLine, hDrop⟩
    · rw [hDrop, scanFrom_nil]
      exact h.finish_of_faultAt hFault
    · rw [hDrop]
      exact scanFrom_cons_error (h.step_of_faultAt hLine hFault) _
  | succ distance ih =>
    have hLength := hFault.le_length
    rcases drop_cases lines (show i ≤ lines.length by omega) with
      ⟨hEnd, -⟩ | ⟨line, hLine, hDrop⟩
    · omega
    rw [hDrop]
    cases hStep : p.step m (i + 1) line with
    | error other =>
      exact absurd (h.faultAt_of_step hLine hStep) (hFirst i (Nat.le_refl _) (by omega) other)
    | ok result =>
      obtain ⟨done, next⟩ := result
      have hLater := ih (h.step hLine hStep) (by omega)
        (fun k hFrom hTo => hFirst k (by omega) hTo) (by omega)
      rw [scanFrom_cons_ok hStep, hLater]
      rfl

/-- A scan fails only in front of a fault. -/
theorem Agrees.exists_faultAt {p : Place} {e : ScanError} (h : Agrees m lines i p)
    (hScan : scanFrom m (i + 1) p (lines.drop i) = .error e) :
    ∃ j other, FaultAt m lines j other := by
  -- by the number of lines that are left
  induction hLeft : lines.length - i generalizing i p e with
  | zero =>
    have hLength := h.inZone.le_length
    obtain rfl : i = lines.length := by omega
    rw [List.drop_length, scanFrom_nil] at hScan
    exact ⟨_, e, h.faultAt_of_finish hScan⟩
  | succ left ih =>
    rcases drop_cases lines h.inZone.le_length with ⟨hEnd, -⟩ | ⟨line, hLine, hDrop⟩
    · omega
    rw [hDrop] at hScan
    cases hStep : p.step m (i + 1) line with
    | error other => exact ⟨i, other, h.faultAt_of_step hLine hStep⟩
    | ok result =>
      obtain ⟨done, next⟩ := result
      rw [scanFrom_cons_ok hStep] at hScan
      cases hLater : scanFrom m (i + 1 + 1) next (lines.drop (i + 1)) with
      | error other => exact ih (h.step hLine hStep) hLater (by omega)
      | ok segments =>
        rw [hLater] at hScan
        cases hScan

/-- **Faults of a template.** A scan fails exactly if the template has a fault, and it reports the
first one. -/
theorem scan_eq_error_iff_fault (m : Markers) (source : String) :
    (∀ e, m.scan source = .error e ↔
      ∃ i, FaultAt m (Text.lines source.toList) i e ∧
        ∀ j < i, ∀ other, ¬ FaultAt m (Text.lines source.toList) j other) ∧
    ((∃ e, m.scan source = .error e) ↔ ∃ i e, FaultAt m (Text.lines source.toList) i e) := by
  have hReports : ∀ i e, FaultAt m (Text.lines source.toList) i e →
      (∀ j < i, ∀ other, ¬ FaultAt m (Text.lines source.toList) j other) →
      m.scan source = .error e := by
    intro i e hFault hFirst
    exact agrees_start.scanFrom_of_first (Nat.zero_le i) hFault fun k _ hk => hFirst k hk
  have hFails : ∀ e, m.scan source = .error e →
      ∃ i other, FaultAt m (Text.lines source.toList) i other := by
    intro e hScan
    exact agrees_start.exists_faultAt hScan
  refine ⟨fun e => ⟨?_, ?_⟩, ?_, ?_⟩
  · intro hScan
    obtain ⟨i, other, hFault⟩ := hFails e hScan
    obtain ⟨j, first, hFirst, hBefore⟩ := hFault.exists_first
    have hSame : e = first :=
      Except.error.inj (hScan.symm.trans (hReports j first hFirst hBefore))
    rw [hSame]
    exact ⟨j, hFirst, hBefore⟩
  · rintro ⟨i, hFault, hFirst⟩
    exact hReports i e hFault hFirst
  · rintro ⟨e, hScan⟩
    exact hFails e hScan
  · rintro ⟨i, e, hFault⟩
    obtain ⟨j, first, hFirst, hBefore⟩ := hFault.exists_first
    exact ⟨first, hReports j first hFirst hBefore⟩

-- neither the marker in the comment nor the end of the template counts, but the directive of line 6
example : ({} : Markers).scan "/*\n@@end\n*/\n@@extract\n\nsizeof \\\n -p \\\n@@end\n@@extract" =
    .error (.danglingContinuation 6) := by
  decide +kernel

end HeaderFacts

import HeaderFacts.Pattern.Expr

/-!
# What an expression matches

A match of an expression in a text is a pair of gaps, the one it starts at and the one it ends at,
and which pairs are matches is said by recursion on the expression: a set covers one character, a
sequence goes through a gap in the middle, a repetition takes a number of matches one after the
other. Nothing in that mentions marks.

Marks compute it. A step on marks *follows* a relation between gaps if it marks exactly the gaps
that the relation leads to from marked ones. Each operation on marks follows the relation of its
own, and so the expression does. Only the repetition without an upper bound needs an argument: it
takes as many steps as the text has gaps, which is enough, since each step but the last leaves one
unmarked gap fewer.

Main definitions:

* `Expr.Spans` — the gaps at which a match starts and ends.
* `Follows` — a step on marks computes a relation between gaps.

Main results:

* `reach_follows` — marks move along the matches of the expression.
* `occursIn_iff` — an expression occurs in a text exactly if a match of it lies in the text.
-/

namespace HeaderFacts.Pattern

/-! ## Matches -/

/-- A walk of `n` steps along a relation. -/
inductive Walk {α : Type} (R : α → α → Prop) : Nat → α → α → Prop where
  | stay (i : α) : Walk R 0 i i
  | step {n : Nat} {i j k : α} : R i j → Walk R n j k → Walk R (n + 1) i k

/-- The character before a gap. -/
def charBefore (text : List Char) : Nat → Option Char
  | 0 => none
  | i + 1 => text[i]?

/-- A match of an expression starts at the first and ends at the second of two gaps; gap `i` has
`i` characters before it. A repetition whose bounds are the wrong way round has the lower one. -/
def Expr.Spans (text : List Char) : Expr → Nat → Nat → Prop
  | empty, i, j => i = j
  | set s, i, j => j = i + 1 ∧ ∃ c, text[i]? = some c ∧ s.contains c = true
  | look l, i, j => i = j ∧ l.holds (charBefore text i) text[i]? = true
  | seq a b, i, j => ∃ k, a.Spans text i k ∧ b.Spans text k j
  | alt a b, i, j => a.Spans text i j ∨ b.Spans text i j
  | repeated a lo none, i, j => ∃ n, lo ≤ n ∧ Walk (a.Spans text) n i j
  | repeated a lo (some hi), i, j =>
    ∃ n, lo ≤ n ∧ n ≤ max lo hi ∧ Walk (a.Spans text) n i j

/-! ## Walks -/

section Walks

variable {α : Type} {R : α → α → Prop}

theorem walk_zero_iff {i j : α} : Walk R 0 i j ↔ i = j := by
  constructor
  · rintro ⟨⟩; rfl
  · rintro rfl; exact .stay i

theorem walk_succ_iff {n : Nat} {i k : α} :
    Walk R (n + 1) i k ↔ ∃ j, R i j ∧ Walk R n j k := by
  constructor
  · rintro (_ | ⟨hij, hjk⟩)
    exact ⟨_, hij, hjk⟩
  · rintro ⟨j, hij, hjk⟩
    exact .step hij hjk

/-- A walk is cut after any number of its steps. -/
theorem walk_add_iff {m n : Nat} {i k : α} :
    Walk R (m + n) i k ↔ ∃ j, Walk R m i j ∧ Walk R n j k := by
  induction m generalizing i with
  | zero => simp [walk_zero_iff]
  | succ m ih =>
    rw [Nat.succ_add, walk_succ_iff]
    simp only [ih, walk_succ_iff]
    constructor
    · rintro ⟨j, hij, l, hjl, hlk⟩
      exact ⟨l, ⟨j, hij, hjl⟩, hlk⟩
    · rintro ⟨l, ⟨j, hij, hjl⟩, hlk⟩
      exact ⟨j, hij, l, hjl, hlk⟩

/-- A walk stays among what the relation does not lead out of. -/
theorem Walk.mem_of_closed {P : α → Prop} (hP : ∀ i j, P i → R i j → P j) {n : Nat} {i j : α}
    (h : Walk R n i j) (hi : P i) : P j := by
  induction h with
  | stay => exact hi
  | step hij _ ih => exact ih (hP _ _ hi hij)

end Walks

/-! ## Marks that follow a relation -/

/-- The gap is marked. -/
def Marks.At (marks : Marks) (i : Nat) : Prop := marks[i]? = some true

/-- On marks for `size` gaps, a step marks the gaps that the relation leads to from marked ones. -/
structure Follows (size : Nat) (step : Marks → Marks) (R : Nat → Nat → Prop) : Prop where
  length {marks : Marks} : marks.length = size → (step marks).length = size
  at_iff {marks : Marks} :
    marks.length = size → ∀ j, (step marks).At j ↔ ∃ i, marks.At i ∧ R i j

theorem Marks.At.lt_length {marks : Marks} {i : Nat} (h : marks.At i) : i < marks.length :=
  (List.getElem?_eq_some_iff.mp h).1

theorem Marks.length_join {a b : Marks} (h : a.length = b.length) :
    (a.join b).length = a.length := by
  simp [Marks.join, h]

theorem Marks.at_join_iff {a b : Marks} (h : a.length = b.length) {i : Nat} :
    (a.join b).At i ↔ a.At i ∨ b.At i := by
  unfold Marks.At Marks.join
  rw [List.getElem?_zipWith]
  by_cases hi : i < a.length
  · rw [List.getElem?_eq_getElem hi, List.getElem?_eq_getElem (h ▸ hi)]
    simp
  · rw [List.getElem?_eq_none (by omega), List.getElem?_eq_none (by omega)]
    simp

namespace Follows

variable {size : Nat} {step next : Marks → Marks} {R S : Nat → Nat → Prop}

/-- The relation may be put in other words. -/
theorem congr (h : Follows size step R) (hRS : ∀ i j, R i j ↔ S i j) : Follows size step S :=
  ⟨h.length, fun hm j => by simp only [h.at_iff hm, hRS]⟩

theorem id : Follows size (fun marks => marks) (· = ·) :=
  ⟨fun hm => hm, fun _ j => ⟨fun hj => ⟨j, hj, rfl⟩, fun ⟨_, hi, hij⟩ => hij ▸ hi⟩⟩

theorem comp (hstep : Follows size step R) (hnext : Follows size next S) :
    Follows size (fun marks => next (step marks)) fun i k => ∃ j, R i j ∧ S j k := by
  refine ⟨fun hm => hnext.length (hstep.length hm), fun hm k => ?_⟩
  rw [hnext.at_iff (hstep.length hm)]
  simp only [hstep.at_iff hm]
  constructor
  · rintro ⟨j, ⟨i, hi, hij⟩, hjk⟩
    exact ⟨i, hi, j, hij, hjk⟩
  · rintro ⟨i, hi, j, hij, hjk⟩
    exact ⟨j, ⟨i, hi, hij⟩, hjk⟩

theorem join (hstep : Follows size step R) (hnext : Follows size next S) :
    Follows size (fun marks => (step marks).join (next marks)) fun i j => R i j ∨ S i j := by
  have hlen : ∀ {marks : Marks}, marks.length = size →
      (step marks).length = (next marks).length :=
    fun hm => (hstep.length hm).trans (hnext.length hm).symm
  refine ⟨fun hm => (Marks.length_join (hlen hm)).trans (hstep.length hm), fun hm j => ?_⟩
  rw [Marks.at_join_iff (hlen hm), hstep.at_iff hm, hnext.at_iff hm, ← exists_or]
  simp only [← and_or_left]

/-! ### One character, one gap -/

theorem advance (s : CharSet) (text : List Char) :
    Follows (text.length + 1) (Marks.advance s text) ((Expr.set s).Spans text) := by
  refine ⟨fun hm => by simp [Marks.advance, hm], fun {marks} hm j => ?_⟩
  unfold Marks.At Marks.advance Expr.Spans
  cases j with
  | zero => simp
  | succ j =>
    rw [List.getElem?_cons_succ, List.getElem?_zipWith]
    constructor
    · intro h
      split at h
      · next marked c hmarked hc =>
        obtain ⟨rfl, hs⟩ : marked = true ∧ s.contains c = true := by simpa using h
        exact ⟨j, hmarked, rfl, c, hc, hs⟩
      · cases h
    · rintro ⟨i, hi, hij, c, hc, hs⟩
      obtain rfl : j = i := by omega
      simp [hi, hc, hs]

/-- A gap lies between the character before it and the one after it. -/
theorem getElem?_gaps (before : Option Char) (text : List Char) {i : Nat} (hi : i ≤ text.length) :
    (gaps before text)[i]? = some (if i = 0 then before else charBefore text i, text[i]?) := by
  induction text generalizing before i with
  | nil =>
    obtain rfl : i = 0 := by simpa using hi
    rfl
  | cons c text ih =>
    cases i with
    | zero => rfl
    | succ i =>
      rw [gaps, List.getElem?_cons_succ, ih (some c) (by simpa using hi)]
      cases i <;> simp [charBefore]

theorem filterLook (l : Look) (text : List Char) :
    Follows (text.length + 1) (Marks.filterLook l text) ((Expr.look l).Spans text) := by
  have hgaps : ∀ before, (gaps before text).length = text.length + 1 := by
    intro before
    induction text generalizing before with
    | nil => rfl
    | cons c text ih => simp [gaps, ih]
  refine ⟨fun hm => by simp [Marks.filterLook, hm, hgaps], fun {marks} hm j => ?_⟩
  have hbefore : ∀ {i}, i ≤ text.length →
      (gaps none text)[i]? = some (charBefore text i, text[i]?) := by
    intro i hi
    rw [getElem?_gaps none text hi]
    cases i <;> rfl
  unfold Marks.At Marks.filterLook Expr.Spans
  rw [List.getElem?_zipWith]
  constructor
  · intro h
    split at h
    · next marked gap hmarked hgap =>
      obtain ⟨rfl, hl⟩ : marked = true ∧ l.holds gap.1 gap.2 = true := by simpa using h
      have hj : j < marks.length := Marks.At.lt_length hmarked
      rw [hbefore (by omega)] at hgap
      cases hgap
      exact ⟨j, hmarked, rfl, hl⟩
    · cases h
  · rintro ⟨i, hi, rfl, hl⟩
    have hlt : i < marks.length := Marks.At.lt_length hi
    rw [hi, hbefore (by omega)]
    simp [hl]

/-! ### Repetitions -/

/-- Marks that a step leaves as they are, are left by any number of steps. -/
theorem walk_fixed (h : Follows size step R) {marks : Marks} (hm : marks.length = size)
    (hfixed : step marks = marks) (n : Nat) (k : Nat) :
    marks.At k ↔ ∃ i, marks.At i ∧ Walk R n i k := by
  induction n generalizing k with
  | zero => simp [walk_zero_iff]
  | succ n ih =>
    have hstep : ∀ j, marks.At j ↔ ∃ i, marks.At i ∧ R i j := by
      intro j
      rw [← h.at_iff hm, hfixed]
    rw [ih]
    simp only [walk_succ_iff]
    constructor
    · rintro ⟨j, hj, hjk⟩
      obtain ⟨i, hi, hij⟩ := (hstep j).mp hj
      exact ⟨i, hi, j, hij, hjk⟩
    · rintro ⟨i, hi, j, hij, hjk⟩
      exact ⟨j, (hstep j).mpr ⟨i, hi, hij⟩, hjk⟩

theorem iterate (h : Follows size step R) (n : Nat) :
    Follows size (Marks.iterate step n) (Walk R n) := by
  induction n with
  | zero => exact (Follows.id).congr fun _ _ => walk_zero_iff.symm
  | succ n ih =>
    have hcomp := (h.comp ih).congr fun _ _ => (walk_succ_iff (R := R)).symm
    refine ⟨fun {marks} hm => ?_, fun {marks} hm j => ?_⟩
    · unfold Marks.iterate
      dsimp only
      split
      · exact hm
      · exact hcomp.length hm
    · unfold Marks.iterate
      dsimp only
      split
      · next hfixed => exact h.walk_fixed hm hfixed (n + 1) j
      · exact hcomp.at_iff hm j

/-- The marks and those one step further. -/
theorem join_step (h : Follows size step R) :
    Follows size (fun marks => marks.join (step marks)) fun i j => i = j ∨ R i j :=
  Follows.id.join h

/-- Marks to which a step adds nothing are all that any walk from them leads to. -/
theorem at_of_walk (h : Follows size step R) {marks : Marks} (hm : marks.length = size)
    (hfixed : marks.join (step marks) = marks) {n i j : Nat} (hi : marks.At i)
    (hij : Walk R n i j) : marks.At j := by
  refine hij.mem_of_closed (P := marks.At) (fun i j hi hij => ?_) hi
  rw [← hfixed, h.join_step.at_iff hm]
  exact ⟨i, hi, .inr hij⟩

theorem closure (h : Follows size step R) (n : Nat) :
    Follows size (Marks.closure step n) fun i j => ∃ k ≤ n, Walk R k i j := by
  induction n with
  | zero => exact Follows.id.congr fun i j => by simp [walk_zero_iff]
  | succ n ih =>
    -- a walk of at most `n + 1` steps is one of at most `n`, perhaps after a first step
    have hcomp := (h.join_step.comp ih).congr (S := fun i j => ∃ k ≤ n + 1, Walk R k i j) <| by
      intro i j
      constructor
      · rintro ⟨l, rfl | hil, k, hk, hlj⟩
        · exact ⟨k, by omega, hlj⟩
        · exact ⟨k + 1, by omega, .step hil hlj⟩
      · rintro ⟨k, hk, _ | ⟨hil, hlj⟩⟩
        · exact ⟨_, .inl rfl, 0, by omega, .stay _⟩
        · exact ⟨_, .inr hil, _, by omega, hlj⟩
    refine ⟨fun {marks} hm => ?_, fun {marks} hm j => ?_⟩
    · unfold Marks.closure
      dsimp only
      split
      · exact hm
      · exact hcomp.length hm
    · unfold Marks.closure
      dsimp only
      split
      · next hfixed =>
        constructor
        · exact fun hj => ⟨j, hj, 0, by omega, .stay j⟩
        · rintro ⟨i, hi, k, _, hij⟩
          exact h.at_of_walk hm hfixed hi hij
      · exact hcomp.at_iff hm j

end Follows

/-! ## Saturation -/

/-- Marks that are added leave fewer gaps unmarked. -/
theorem Marks.count_false_join {a b : Marks} (hlen : a.length = b.length) :
    (a.join b).count false ≤ a.count false ∧
      (a.join b ≠ a → (a.join b).count false < a.count false) := by
  induction a generalizing b with
  | nil => simp [Marks.join]
  | cons x a ih =>
    cases b with
    | nil => simp at hlen
    | cons y b =>
      obtain ⟨hle, hlt⟩ := ih (b := b) (by simpa using hlen)
      have hcons : Marks.join (x :: a) (y :: b) = (x || y) :: Marks.join a b := rfl
      rw [hcons]
      match x, y with
      | true, _ => simpa using ⟨hle, hlt⟩
      | false, false => simpa using ⟨hle, hlt⟩
      | false, true =>
        -- the gap at the front is marked now
        have hfewer : (true :: Marks.join a b).count false < (false :: a).count false := by
          simpa using Nat.lt_succ_of_le hle
        exact ⟨Nat.le_of_lt hfewer, fun _ => hfewer⟩

/-- With as many steps as there are unmarked gaps, a closure is closed. -/
theorem Follows.closure_closed {size : Nat} {step : Marks → Marks} {R : Nat → Nat → Prop}
    (h : Follows size step R) {n : Nat} {marks : Marks} (hm : marks.length = size)
    (hn : marks.count false ≤ n) {i j : Nat} (hi : (Marks.closure step n marks).At i)
    (hij : R i j) : (Marks.closure step n marks).At j := by
  induction n generalizing marks with
  | zero =>
    -- every gap is marked already
    have hall : false ∉ marks := List.count_eq_zero.mp (by omega)
    have hj : j < marks.length := by
      have := Marks.At.lt_length ((h.at_iff hm j).mpr ⟨i, hi, hij⟩)
      rw [hm]
      rwa [h.length hm] at this
    rw [Marks.closure, Marks.At, List.getElem?_eq_getElem hj]
    cases hmark : marks[j] with
    | true => rfl
    | false => exact absurd (hmark ▸ List.getElem_mem hj) hall
  | succ n ih =>
    have hlen : marks.length = (step marks).length := hm.trans (h.length hm).symm
    unfold Marks.closure at hi ⊢
    dsimp only at hi ⊢
    split at hi
    · next hfixed =>
      rw [if_pos hfixed]
      exact h.at_of_walk hm hfixed hi (.step hij (.stay j))
    · next hgrows =>
      rw [if_neg hgrows]
      have hfewer := (Marks.count_false_join hlen).2 hgrows
      exact ih ((Marks.length_join hlen).trans hm) (by omega) hi

/-- A closure with as many steps as there are gaps follows walks of any length. -/
theorem Follows.saturate {size : Nat} {step : Marks → Marks} {R : Nat → Nat → Prop}
    (h : Follows size step R) :
    Follows size (Marks.closure step size) fun i j => ∃ n, Walk R n i j := by
  refine ⟨(h.closure size).length, fun {marks} hm j => ?_⟩
  constructor
  · intro hj
    obtain ⟨i, hi, n, _, hij⟩ := ((h.closure size).at_iff hm j).mp hj
    exact ⟨i, hi, n, hij⟩
  · rintro ⟨i, hi, n, hij⟩
    have hcount : marks.count false ≤ size := hm ▸ List.count_le_length
    have hstart : (Marks.closure step size marks).At i :=
      ((h.closure size).at_iff hm i).mpr ⟨i, hi, 0, by omega, .stay i⟩
    exact hij.mem_of_closed (P := (Marks.closure step size marks).At)
      (fun _ _ => h.closure_closed hm hcount) hstart

/-! ## Expressions -/

/-- Marks move along the matches of an expression. -/
theorem reach_follows (text : List Char) (e : Expr) :
    Follows (text.length + 1) (e.reach text) (e.Spans text) := by
  induction e with
  | empty => exact .id
  | set s => exact .advance s text
  | look l => exact .filterLook l text
  | seq a b iha ihb => exact iha.comp ihb
  | alt a b iha ihb => exact iha.join ihb
  | repeated a lo hi? ih =>
    cases hi? with
    | none =>
      refine ((ih.iterate lo).comp ih.saturate).congr fun i k => ?_
      constructor
      · rintro ⟨j, hij, n, hjk⟩
        exact ⟨lo + n, by omega, walk_add_iff.mpr ⟨j, hij, hjk⟩⟩
      · rintro ⟨n, hn, hik⟩
        obtain ⟨m, rfl⟩ := Nat.exists_eq_add_of_le hn
        obtain ⟨j, hij, hjk⟩ := walk_add_iff.mp hik
        exact ⟨j, hij, m, hjk⟩
    | some hi =>
      refine ((ih.iterate lo).comp (ih.closure (hi - lo))).congr fun i k => ?_
      constructor
      · rintro ⟨j, hij, n, hn, hjk⟩
        exact ⟨lo + n, by omega, by omega, walk_add_iff.mpr ⟨j, hij, hjk⟩⟩
      · rintro ⟨n, hn, hmost, hik⟩
        obtain ⟨m, rfl⟩ := Nat.exists_eq_add_of_le hn
        obtain ⟨j, hij, hjk⟩ := walk_add_iff.mp hik
        exact ⟨j, hij, m, by omega, hjk⟩

/-- Every gap of a text is marked at the start. -/
theorem Marks.at_replicate_iff {n i : Nat} : Marks.At (List.replicate n true) i ↔ i < n := by
  simp [Marks.At, List.getElem?_replicate]

/-- A match that starts in the text ends in it. -/
theorem Expr.Spans.le_length {e : Expr} {text : List Char} {i j : Nat} (h : e.Spans text i j)
    (hi : i ≤ text.length) : j ≤ text.length := by
  have hlen : (List.replicate (text.length + 1) true).length = text.length + 1 :=
    List.length_replicate
  have hj := ((reach_follows text e).at_iff hlen j).mpr
    ⟨i, Marks.at_replicate_iff.mpr (by omega), h⟩
  have := hj.lt_length
  rw [(reach_follows text e).length hlen] at this
  omega

/-- An expression occurs in a text exactly if a match of it lies in the text. -/
theorem occursIn_iff {e : Expr} {text : List Char} :
    e.occursIn text = true ↔ ∃ i j, i ≤ text.length ∧ e.Spans text i j := by
  have hlen : (List.replicate (text.length + 1) true).length = text.length + 1 :=
    List.length_replicate
  have hreach := (reach_follows text e).at_iff hlen
  unfold Expr.occursIn
  rw [List.any_eq_true]
  constructor
  · rintro ⟨marked, hmem, hmarked⟩
    obtain ⟨j, hj⟩ := List.mem_iff_getElem?.mp hmem
    obtain ⟨i, hi, hij⟩ := (hreach j).mp (hj.trans (congrArg some hmarked))
    exact ⟨i, j, Nat.le_of_lt_succ (Marks.at_replicate_iff.mp hi), hij⟩
  · rintro ⟨i, j, hi, hij⟩
    have hj := (hreach j).mpr ⟨i, Marks.at_replicate_iff.mpr (by omega), hij⟩
    exact ⟨true, List.mem_iff_getElem?.mpr ⟨j, hj⟩, rfl⟩

end HeaderFacts.Pattern

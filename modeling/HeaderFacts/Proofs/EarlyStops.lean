import HeaderFacts.Dump.Session
import Mathlib.Data.List.Basic
import Mathlib.Data.List.Infix

/-!
# Where a traversal stops

A visitor answers each declaration that it is handed: it wants more, it has enough, or it fails.
Whatever its answers depend on, a traversal hands it the declarations of the kind asked for, in
order and each once, up to the first one that is not answered with a wish for more, or all of them
if there is none. That one decides how the traversal ends. Declarations of other kinds are skipped
without being handed over, so the traversal is a single loop over the session.

Main definitions:

* `Answers`, `Answers.visitor` — answers that depend on the declarations handed over so far, and the
  visitor that gives them and keeps a record of what it is handed.
* `Visitor.react`, `Visitor.stateAfter`, `Visitor.answerTo` — a visitor with a state of its own.
* `Answers.HandsOver`, `Answers.EndsIn` — which declarations are handed over, and the outcome.
* `Session.loop` — the traversal as a loop that skips, goes on and breaks off.

Main results:

* `visitAll_cons` — one declaration of a traversal.
* `visitAll_handsOver` — a traversal with any visitor.
* `Session.visit_eq_loop` — skipping in the loop is leaving out beforehand.
* `Session.visit_handsOver` — what is handed over and how a traversal ends, for all answers.
-/

namespace HeaderFacts

open Session (visitAll)

variable {ε σ : Type}

/-! ## Prefixes at which a traversal stops -/

/-- What a visitor says to the last of the declarations that it has been handed. -/
abbrev Answers (ε : Type) := List Decl → Except ε Visit

namespace Answers

variable {answers later : Answers ε} {decls rest calls : List Decl} {d : Decl}
variable {outcome : Except ε Unit}

/-- The last of some declarations is not answered with a wish for more. -/
def StopsAt (answers : Answers ε) (calls : List Decl) : Prop :=
  calls ≠ [] ∧ answers calls ≠ .ok .more

/-- What is handed over of some declarations: the shortest prefix at which the traversal stops, or
all of them if it stops at none. -/
inductive HandsOver (answers : Answers ε) (decls calls : List Decl) : Prop
  | stopped (hPrefix : calls <+: decls) (hStop : answers.StopsAt calls)
      (hShortest : ∀ other, other <+: decls → answers.StopsAt other → calls.length ≤ other.length)
  | exhausted (hAll : calls = decls) (hNone : ∀ other, other <+: decls → ¬ answers.StopsAt other)

/-- How a traversal ends that has handed over some declarations: with the error that is the answer
to the last one, and well if there is none. -/
def EndsIn (answers : Answers ε) (calls : List Decl) (outcome : Except ε Unit) : Prop :=
  ∀ err, outcome = .error err ↔ calls ≠ [] ∧ answers calls = .error err

/-- Only one list of declarations can be handed over. -/
theorem HandsOver.unique {other : List Decl} (h : answers.HandsOver decls calls)
    (hOther : answers.HandsOver decls other) : calls = other := by
  cases h with
  | stopped hPrefix hStop hShortest =>
    cases hOther with
    | stopped hPrefix' hStop' hShortest' =>
      -- both are prefixes, and neither is longer than the other
      have hLess : calls.length ≤ other.length := hShortest other hPrefix' hStop'
      have hLess' : other.length ≤ calls.length := hShortest' calls hPrefix hStop
      have hWithin : calls <+: other := List.prefix_of_prefix_length_le hPrefix hPrefix' hLess
      exact hWithin.eq_of_length_le hLess'
    | exhausted _ hNone => exact absurd hStop (hNone calls hPrefix)
  | exhausted hAll hNone =>
    cases hOther with
    | stopped hPrefix' hStop' _ => exact absurd hStop' (hNone other hPrefix')
    | exhausted hAll' _ => rw [hAll, hAll']

theorem EndsIn.unique {other : Except ε Unit} (h : answers.EndsIn calls outcome)
    (hOther : answers.EndsIn calls other) : outcome = other := by
  have hSame : ∀ err, outcome = .error err ↔ other = .error err := by
    intro err
    rw [h err, hOther err]
  cases outcome with
  | error err => exact ((hSame err).1 rfl).symm
  | ok _ =>
    cases other with
    | error err => exact (hSame err).2 rfl
    | ok _ => rfl

theorem stopsAt_singleton : answers.StopsAt [d] ↔ answers [d] ≠ .ok .more := by
  simp [StopsAt]

/-- A declaration that is not answered with a wish for more is the last one. -/
theorem HandsOver.first (h : answers [d] ≠ .ok .more) : answers.HandsOver (d :: rest) [d] := by
  refine .stopped ⟨rest, rfl⟩ (stopsAt_singleton.2 h) fun other _ hStop => ?_
  exact List.length_pos_iff.2 hStop.1

section Next

/- The answers behind a declaration that is answered with a wish for more. -/
variable (hMore : answers [d] = .ok .more) (hLater : ∀ l, l ≠ [] → answers (d :: l) = later l)

include hMore hLater

theorem stopsAt_cons {l : List Decl} : answers.StopsAt (d :: l) ↔ later.StopsAt l := by
  cases l with
  | nil => simp [StopsAt, hMore]
  | cons x l => simp [StopsAt, hLater]

/-- After a declaration that is answered with a wish for more the rest is traversed. -/
theorem HandsOver.next (h : later.HandsOver rest calls) :
    answers.HandsOver (d :: rest) (d :: calls) := by
  have hCons {l : List Decl} : answers.StopsAt (d :: l) ↔ later.StopsAt l :=
    stopsAt_cons hMore hLater
  cases h with
  | stopped hPrefix hStop hShortest =>
    have hWhole : d :: calls <+: d :: rest := List.cons_prefix_cons.2 ⟨rfl, hPrefix⟩
    refine .stopped hWhole (hCons.2 hStop) ?_
    intro other hOther hStops
    -- a shorter prefix would begin with the same declaration, and the rest of it stop earlier
    rcases List.prefix_cons_iff.1 hOther with rfl | ⟨l, rfl, hWithin⟩
    · exact absurd rfl hStops.1
    · exact Nat.succ_le_succ (hShortest l hWithin (hCons.1 hStops))
  | exhausted hAll hNone =>
    refine .exhausted (congrArg (d :: ·) hAll) ?_
    intro other hOther hStops
    rcases List.prefix_cons_iff.1 hOther with rfl | ⟨l, rfl, hWithin⟩
    · exact hStops.1 rfl
    · exact hNone l hWithin (hCons.1 hStops)

theorem EndsIn.next (h : later.EndsIn calls outcome) : answers.EndsIn (d :: calls) outcome := by
  intro err
  rw [h err]
  cases calls with
  | nil => simp [hMore]
  | cons x calls => simp [hLater]

end Next

/-- Answers to no declarations do not matter. -/
theorem stopsAt_congr (h : ∀ l, l ≠ [] → answers l = later l) (l : List Decl) :
    answers.StopsAt l ↔ later.StopsAt l :=
  and_congr_right fun hSome => by rw [h l hSome]

theorem HandsOver.congr (h : ∀ l, l ≠ [] → answers l = later l)
    (hOver : answers.HandsOver decls calls) : later.HandsOver decls calls := by
  have hSame := stopsAt_congr h
  cases hOver with
  | stopped hPrefix hStop hShortest =>
    exact .stopped hPrefix ((hSame calls).1 hStop)
      fun other hOther hStops => hShortest other hOther ((hSame other).2 hStops)
  | exhausted hAll hNone =>
    exact .exhausted hAll fun other hOther hStops => hNone other hOther ((hSame other).2 hStops)

theorem EndsIn.congr (h : ∀ l, l ≠ [] → answers l = later l) (hEnds : answers.EndsIn calls outcome) :
    later.EndsIn calls outcome := by
  intro err
  rw [hEnds err]
  exact and_congr_right fun hSome => by rw [h calls hSome]

end Answers

/-! ## Visitors with a state -/

/-- A visitor with a state, which it also changes where it fails. -/
abbrev Visitor (ε σ : Type) := Decl → ExceptT ε (StateM σ) Visit

namespace Visitor

variable (v : Visitor ε σ)

/-- What a visitor in some state says to a declaration, and the state that this leaves it in. -/
def react (state : σ) (d : Decl) : Except ε Visit × σ :=
  (v d).run.run state

/-- The state of a visitor that has been handed some declarations. -/
def stateAfter (start : σ) (calls : List Decl) : σ :=
  calls.foldl (fun state d => (v.react state d).2) start

/-- What a visitor says to the last of the declarations that it is handed. -/
def answerTo : σ → Answers ε
  | _, [] => .ok .more
  | state, [d] => (v.react state d).1
  | state, d :: next :: rest => answerTo (v.react state d).2 (next :: rest)

theorem answerTo_cons (state : σ) (d : Decl) {l : List Decl} (h : l ≠ []) :
    v.answerTo state (d :: l) = v.answerTo (v.react state d).2 l := by
  cases l with
  | nil => exact absurd rfl h
  | cons x l => rfl

end Visitor

/-- A traversal goes on only where the visitor wants more. -/
theorem visitAll_cons (v : Visitor ε σ) (d : Decl) (rest : List Decl) (state : σ) :
    (visitAll v (d :: rest)).run.run state =
      match v.react state d with
      | (.ok .more, next) => (visitAll v rest).run.run next
      | (.ok .enough, next) => (.ok (), next)
      | (.error err, next) => (.error err, next) := by
  rw [visitAll, ExceptT.run_bind, StateT.run_bind, Visitor.react]
  generalize (v d).run.run state = reaction
  rcases reaction with ⟨err | (_ | _), next⟩ <;> rfl

/-- A traversal hands over declarations up to the first one that it stops at. -/
theorem visitAll_handsOver (v : Visitor ε σ) (decls : List Decl) (start : σ) :
    ∃ outcome calls, (visitAll v decls).run.run start = (outcome, v.stateAfter start calls) ∧
      (v.answerTo start).HandsOver decls calls ∧ (v.answerTo start).EndsIn calls outcome := by
  -- by induction on what is left, from whatever state the visitor is in
  induction decls generalizing start with
  | nil =>
    refine ⟨.ok (), [], rfl, .exhausted rfl ?_, ?_⟩
    · intro other hOther hStop
      exact hStop.1 (List.prefix_nil.1 hOther)
    · intro err
      simp
  | cons d rest ih =>
    have hOne : v.answerTo start [d] = (v.react start d).1 := rfl
    have hState : v.stateAfter start [d] = (v.react start d).2 := rfl
    have hLater : ∀ l, l ≠ [] → v.answerTo start (d :: l) = v.answerTo (v.react start d).2 l :=
      fun l => v.answerTo_cons start d
    rw [visitAll_cons]
    rcases hReact : v.react start d with ⟨answer, next⟩
    rw [hReact] at hOne hState hLater
    match answer with
    | .ok .more =>
      -- the visitor goes on in the state that the declaration has left it in
      obtain ⟨outcome, calls, hRun, hOver, hEnds⟩ := ih next
      refine ⟨outcome, d :: calls, ?_, hOver.next hOne hLater, hEnds.next hOne hLater⟩
      show (visitAll v rest).run.run next = _
      rw [hRun, Visitor.stateAfter, Visitor.stateAfter, List.foldl_cons, hReact]
    | .ok .enough =>
      have hStop : v.answerTo start [d] ≠ .ok .more := by simp [hOne]
      refine ⟨.ok (), [d], by rw [hState], .first hStop, ?_⟩
      intro err
      simp [hOne]
    | .error failure =>
      have hStop : v.answerTo start [d] ≠ .ok .more := by simp [hOne]
      refine ⟨.error failure, [d], by rw [hState], .first hStop, ?_⟩
      intro err
      simp [hOne]

/-! ## Records of what is handed over -/

namespace Answers

/-- The visitor that gives some answers and records the declarations that it is handed. -/
def visitor (answers : Answers ε) : Visitor ε (List Decl) := fun d => do
  let calls := (← get) ++ [d]
  set calls
  match answers calls with
  | .ok answer => return answer
  | .error err => throw err

variable (answers : Answers ε)

theorem react_visitor (seen : List Decl) (d : Decl) :
    answers.visitor.react seen d = (answers (seen ++ [d]), seen ++ [d]) := by
  show ((match answers (seen ++ [d]) with
    | .ok answer => pure answer
    | .error err => throw err : ExceptT ε (StateM (List Decl)) Visit).run.run (seen ++ [d])) = _
  cases answers (seen ++ [d]) <;> rfl

theorem stateAfter_visitor (seen calls : List Decl) :
    answers.visitor.stateAfter seen calls = seen ++ calls := by
  induction calls generalizing seen with
  | nil => simp [Visitor.stateAfter]
  | cons d calls ih =>
    have hStep : answers.visitor.stateAfter seen (d :: calls) =
        answers.visitor.stateAfter (seen ++ [d]) calls := by
      rw [Visitor.stateAfter, List.foldl_cons, react_visitor]
      rfl
    rw [hStep, ih, List.append_assoc, List.singleton_append]

theorem answerTo_visitor (seen : List Decl) {calls : List Decl} (h : calls ≠ []) :
    answers.visitor.answerTo seen calls = answers (seen ++ calls) := by
  induction calls generalizing seen with
  | nil => exact absurd rfl h
  | cons d calls ih =>
    rcases List.eq_nil_or_concat' calls with hLast | ⟨front, last, hSome⟩
    · subst hLast
      rw [Visitor.answerTo, react_visitor]
    · have hNotLast : calls ≠ [] := by simp [hSome]
      rw [Visitor.answerTo_cons _ _ _ hNotLast, react_visitor, ih _ hNotLast, List.append_assoc,
        List.singleton_append]

end Answers

/-! ## Traversals of sessions -/

namespace Session

/-- The traversal as a loop over all declarations, which skips those of other kinds. -/
def loop {m : Type → Type} [Monad m] (s : Session) (kind? : Option NodeKind)
    (visitor : Decl → m Visit) : m Unit := do
  for d in s.decls do
    if kind?.any (· != d.kind) then continue
    if (← visitor d) == .enough then break

/-- Skipping declarations in the loop is leaving them out beforehand. -/
theorem visit_eq_loop {m : Type → Type} [Monad m] [LawfulMonad m] (s : Session)
    (kind? : Option NodeKind) (visitor : Decl → m Visit) :
    s.visit kind? visitor = s.loop kind? visitor := by
  rw [visit, ofKind, loop]
  induction s.decls with
  | nil => simp [visitAll]
  | cons d rest ih =>
    have hSkip : kind?.any (· != d.kind) = !kind?.all (d.kind == ·) := by
      cases kind? <;> simp [bne, Bool.beq_comm]
    rw [List.forIn_cons]
    cases hKind : kind?.all (d.kind == ·) with
    | true =>
      -- the loop hands the declaration over, and goes on or breaks off as the visitor says
      simp only [List.filter_cons, hSkip, hKind, if_true, Bool.not_true, Bool.false_eq_true, if_false,
        visitAll, ih, bind_assoc]
      refine bind_congr fun answer => ?_
      cases answer with
      | more => simp
      | enough => simp
    | false =>
      -- the loop goes on without it
      simp [hSkip, hKind, ih]

/-- The declarations of a kind, or all of them. -/
theorem ofKind_eq (s : Session) (kind? : Option NodeKind) :
    s.ofKind kind? = s.decls.filter fun d => ∀ kind ∈ kind?, d.kind = kind := by
  rw [ofKind]
  apply List.filter_congr
  intro d _
  rw [Bool.eq_iff_iff]
  cases kind? <;> simp

/-- **Traversals.** A traversal is one loop, which skips declarations and breaks off. Whatever its
visitor answers, it is handed exactly the shortest prefix of the declarations of the kind asked for,
or of all declarations, that ends with the first one that it does not want more after, or all of
them if there is none. The traversal ends with the error that this one is answered with, and well if
there is no error. -/
theorem visit_handsOver (s : Session) (kind? : Option NodeKind) (answers : Answers ε) :
    s.visit kind? answers.visitor = s.loop kind? answers.visitor ∧
      ∀ outcome calls, (s.visit kind? answers.visitor).run.run [] = (outcome, calls) ↔
        answers.HandsOver (s.decls.filter fun d => ∀ kind ∈ kind?, d.kind = kind) calls ∧
          answers.EndsIn calls outcome := by
  refine ⟨s.visit_eq_loop kind? answers.visitor, fun outcome calls => ?_⟩
  have hAnswers : ∀ l, l ≠ [] → answers.visitor.answerTo [] l = answers l := by
    intro l hSome
    rw [answers.answerTo_visitor [] hSome, List.nil_append]
  -- the visitor starts with an empty record, so its state is what it has been handed
  obtain ⟨result, handed, hRun, hOver, hEnds⟩ :=
    visitAll_handsOver answers.visitor (s.ofKind kind?) []
  rw [answers.stateAfter_visitor, List.nil_append] at hRun
  have hOver := hOver.congr hAnswers
  have hEnds := hEnds.congr hAnswers
  rw [visit, hRun, ← s.ofKind_eq]
  constructor
  · rintro ⟨rfl, rfl⟩
    exact ⟨hOver, hEnds⟩
  · -- no other declarations and no other outcome fit the description
    rintro ⟨hOver', hEnds'⟩
    obtain rfl := hOver.unique hOver'
    rw [hEnds.unique hEnds']

/-- A macro is skipped, and nothing is handed over behind the second struct, which is refused. -/
example :
    let s : Session :=
      { target := "x86_64-unknown-linux-gnu"
        decls := [Decl.struct "a", Decl.macroOf "b" ["b"], Decl.struct "c", Decl.struct "d"] }
    let answers : Answers String := fun calls => if calls.length < 2 then .ok .more else .error "c"
    (s.visit (some .structDecl) answers.visitor).run.run [] =
      (.error "c", [Decl.struct "a", Decl.struct "c"]) := by
  rfl

end Session

end HeaderFacts

import Mathlib.Data.List.Basic
import Mathlib.Data.List.Induction
import Mathlib.Data.List.Forall2

/-!
# First failures

Most of what reads a template or a header goes through a list and stops at the first member that it
fails on. What such a map or fold comes to is told by where that member stands: everything before it
succeeds, and nothing after it matters.

Main definitions:

* `Faultless`, `FirstFault` — no faulty member of a list, and the error at the first one; what is a
  fault may depend on the members before it.

Main results:

* `split_first` — a list splits at its first member with a property.
* `ok_of_bind`, `ok_of_map`, `ok_of_mapError` — what has succeeded where a whole step has.
* `mapM_of_failure`, `mapM_of_success`, `mapM_of_forall₂` — what a map that may fail comes to.
* `faultless_or_firstFault` — a list has a first fault or none.
* `foldlM_of_faultless`, `foldlM_of_firstFault` — what a fold that may fail comes to.
-/

namespace HeaderFacts

/-- A list splits at its first member with a property, unless no member has it. -/
theorem split_first {α : Type} (p : α → Prop) (l : List α) :
    (∀ x ∈ l, ¬ p x) ∨
      ∃ before x after, l = before ++ x :: after ∧ (∀ y ∈ before, ¬ p y) ∧ p x := by
  induction l with
  | nil => exact Or.inl (by simp)
  | cons x rest ih =>
    by_cases hx : p x
    · exact Or.inr ⟨[], x, rest, rfl, by simp, hx⟩
    · rcases ih with hNone | ⟨before, y, after, rfl, hBefore, hy⟩
      · exact Or.inl (List.forall_mem_cons.2 ⟨hx, hNone⟩)
      · exact Or.inr ⟨x :: before, y, after, rfl, List.forall_mem_cons.2 ⟨hx, hBefore⟩, hy⟩

/-- Two steps succeed together only if each does. -/
theorem ok_of_bind {ε α β : Type} {x : Except ε α} {f : α → Except ε β} {z : β}
    (h : x >>= f = .ok z) : ∃ y, x = .ok y ∧ f y = .ok z := by
  cases x with
  | error err => cases h
  | ok y => exact ⟨y, rfl, h⟩

/-- A step after which nothing can fail succeeds where the whole does. -/
theorem ok_of_map {ε α β : Type} {x : Except ε α} {f : α → β} {z : β} (h : x.map f = .ok z) :
    ∃ y, x = .ok y ∧ f y = z := by
  cases x with
  | error err => cases h
  | ok y => exact ⟨y, rfl, Except.ok.inj h⟩

/-- A step whose errors are reworded succeeds as the step does. -/
theorem ok_of_mapError {ε ε' α : Type} {x : Except ε α} {f : ε → ε'} {y : α}
    (h : x.mapError f = .ok y) : x = .ok y := by
  cases x with
  | error err => cases h
  | ok z => exact congrArg Except.ok (Except.ok.inj h)

/-! ## Failing maps -/

section Maps

variable {ε α β : Type} {f : α → Except ε β}

/-- A map over a list stops at the first member it fails on. -/
theorem mapM_of_failure {before after : List α} {x : α} {err : ε}
    (hBefore : ∀ y ∈ before, ∃ z, f y = .ok z) (hx : f x = .error err) :
    (before ++ x :: after).mapM f = .error err := by
  induction before with
  | nil =>
    rw [List.nil_append, List.mapM_cons, hx]
    rfl
  | cons y before ih =>
    obtain ⟨z, hz⟩ := hBefore y (List.mem_cons_self ..)
    rw [List.cons_append, List.mapM_cons, hz, ih fun w hw => hBefore w (List.mem_cons_of_mem _ hw)]
    rfl

theorem mapM_of_success {l : List α} (h : ∀ x ∈ l, ∃ z, f x = .ok z) :
    ∃ zs, l.mapM f = .ok zs ∧ List.Forall₂ (fun x z => f x = .ok z) l zs := by
  induction l with
  | nil => exact ⟨[], rfl, .nil⟩
  | cons x rest ih =>
    obtain ⟨z, hz⟩ := h x (List.mem_cons_self ..)
    obtain ⟨zs, hMap, hAll⟩ := ih fun y hy => h y (List.mem_cons_of_mem _ hy)
    refine ⟨z :: zs, ?_, .cons hz hAll⟩
    rw [List.mapM_cons, hz, hMap]
    rfl

/-- A map succeeds with what each member succeeds with. -/
theorem mapM_of_forall₂ {l : List α} {zs : List β}
    (h : List.Forall₂ (fun x z => f x = .ok z) l zs) : l.mapM f = .ok zs := by
  induction h with
  | nil => rfl
  | cons hx _ ih =>
    rw [List.mapM_cons, hx, ih]
    rfl

/-- A list holds a first member that a map fails on, or none. -/
theorem first_failure (f : α → Except ε β) (l : List α) :
    (∀ x ∈ l, ∃ z, f x = .ok z) ∨
      ∃ before x after err, l = before ++ x :: after ∧ (∀ y ∈ before, ∃ z, f y = .ok z) ∧
        f x = .error err := by
  have hOk (x : α) (h : ¬ ∃ err, f x = .error err) : ∃ z, f x = .ok z := by
    cases hx : f x with
    | ok z => exact ⟨z, rfl⟩
    | error err => exact absurd ⟨err, hx⟩ h
  rcases split_first (fun x => ∃ err, f x = .error err) l with
    hNone | ⟨before, x, after, hl, hBefore, err, hx⟩
  · exact Or.inl fun x hx => hOk x (hNone x hx)
  · exact Or.inr ⟨before, x, after, err, hl, fun y hy => hOk y (hBefore y hy), hx⟩

end Maps

/-! ## Failing folds -/

section Folds

variable {ε α σ : Type}

/-- No member of a list is faulty after the members before it. -/
def Faultless (fault : List α → α → ε → Prop) (l : List α) : Prop :=
  ∀ before x after err, l = before ++ x :: after → ¬ fault before x err

/-- The error at the first faulty member of a list. -/
def FirstFault (fault : List α → α → ε → Prop) (l : List α) (err : ε) : Prop :=
  ∃ before x after, l = before ++ x :: after ∧ Faultless fault before ∧ fault before x err

variable {fault : List α → α → ε → Prop}

theorem faultless_nil : Faultless fault [] := by
  intro before x after err h
  simp at h

theorem faultless_concat {l : List α} {x : α} (hl : Faultless fault l)
    (hx : ∀ err, ¬ fault l x err) : Faultless fault (l ++ [x]) := by
  intro before y after err h
  rcases List.eq_nil_or_concat after with rfl | ⟨after, z, rfl⟩
  · obtain ⟨rfl, hy⟩ := List.append_inj' h rfl
    cases hy
    exact hx err
  · -- something stands behind it, so it is a member of the list before the last one
    rw [List.concat_eq_append, ← List.cons_append, ← List.append_assoc] at h
    exact hl before y after err (List.append_inj' h rfl).1

theorem faultless_of_concat {l : List α} {x : α} (h : Faultless fault (l ++ [x])) :
    Faultless fault l ∧ ∀ err, ¬ fault l x err := by
  constructor
  · rintro before y after err rfl
    exact h before y (after ++ [x]) err (by simp)
  · intro err
    exact h l x [] err rfl

/-- A list is faultless or has a first fault. -/
theorem faultless_or_firstFault (fault : List α → α → ε → Prop) (l : List α) :
    Faultless fault l ∨ ∃ err, FirstFault fault l err := by
  -- whether a member is faulty depends on those before it, so the last one is looked at last
  induction l using List.reverseRecOn with
  | nil => exact Or.inl faultless_nil
  | append_singleton l x ih =>
    rcases ih with hl | ⟨err, before, y, after, rfl, hBefore, hFault⟩
    · by_cases hx : ∃ err, fault l x err
      · obtain ⟨err, hFault⟩ := hx
        exact Or.inr ⟨err, l, x, [], rfl, hl, hFault⟩
      · rw [not_exists] at hx
        exact Or.inl (faultless_concat hl hx)
    · exact Or.inr ⟨err, before, y, after ++ [x], by simp, hBefore, hFault⟩

section Invariant

variable {f : σ → α → Except ε σ} {inv : List α → σ → Prop} {start : σ} {l : List α}

/-- A fold over a faultless list comes to a state that its invariant ties to the whole list. -/
theorem foldlM_of_faultless (hStart : inv [] start)
    (hStep : ∀ before s x, inv before s → (∀ err, ¬ fault before x err) →
      ∃ s', f s x = .ok s' ∧ inv (before ++ [x]) s')
    (h : Faultless fault l) : ∃ s, l.foldlM f start = .ok s ∧ inv l s := by
  -- the invariant is about what has been read, so the list grows at its end
  induction l using List.reverseRecOn with
  | nil => exact ⟨start, rfl, hStart⟩
  | append_singleton l x ih =>
    obtain ⟨hl, hx⟩ := faultless_of_concat h
    obtain ⟨s, hFold, hInv⟩ := ih hl
    obtain ⟨s', hLast, hInv'⟩ := hStep l s x hInv hx
    refine ⟨s', ?_, hInv'⟩
    rw [List.foldlM_append, hFold]
    show [x].foldlM f s = .ok s'
    simp [hLast]

/-- A fold over a list with a first fault fails with it, whatever comes after. -/
theorem foldlM_of_firstFault {err : ε} (hStart : inv [] start)
    (hStep : ∀ before s x, inv before s → (∀ err, ¬ fault before x err) →
      ∃ s', f s x = .ok s' ∧ inv (before ++ [x]) s')
    (hFail : ∀ before s x err, inv before s → fault before x err → f s x = .error err)
    (h : FirstFault fault l err) : l.foldlM f start = .error err := by
  obtain ⟨before, x, after, rfl, hBefore, hFault⟩ := h
  obtain ⟨s, hFold, hInv⟩ := foldlM_of_faultless hStart hStep hBefore
  rw [List.foldlM_append, hFold]
  show (x :: after).foldlM f s = .error err
  rw [List.foldlM_cons, hFail before s x err hInv hFault]
  rfl

end Invariant

end Folds

end HeaderFacts

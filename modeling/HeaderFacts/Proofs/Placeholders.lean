import HeaderFacts.Row
import Mathlib.Data.List.Basic
import Mathlib.Data.List.Infix
import Mathlib.Tactic.Linarith

/-!
# Filling in row formats

A row format has slots for a name and for a value. A row is made by two substitutions, one after
the other: first the name is put into its slots, then whatever looks like the slot for the value
gets the value. That is the same as filling in all slots of the format at once, unless the name,
alone or with text of the format around it, makes a slot for the value that the format does not
have.

Main definitions:

* `RowPart`, `rowParts` — the characters and slots of a row format.
* `fillParts`, `Options.filledRow` — a format with all its slots filled in at once.
* `nameParts` — a format with the name put in and the slots for the value still marked.

Main results:

* `Text.refill_eq_iff` — exactly when a substitution fills in the marked slots and no others.
* `Options.formatRow_eq_filledRow_iff` — exactly when a row is its format filled in at once.
-/

namespace HeaderFacts

/-! ## Slots -/

namespace Text

/-- Puts a text into the slots of a text, which are marked by `none`. -/
def fillSlots (new : List Char) (marked : List (Option Char)) : List Char :=
  marked.flatMap fun
    | none => new
    | some c => [c]

@[simp] theorem fillSlots_nil (new : List Char) : fillSlots new [] = [] := rfl

@[simp] theorem fillSlots_slot (new : List Char) (marked : List (Option Char)) :
    fillSlots new (none :: marked) = new ++ fillSlots new marked := rfl

@[simp] theorem fillSlots_char (new : List Char) (c : Char) (marked : List (Option Char)) :
    fillSlots new (some c :: marked) = c :: fillSlots new marked := rfl

theorem fillSlots_append (new : List Char) (l r : List (Option Char)) :
    fillSlots new (l ++ r) = fillSlots new l ++ fillSlots new r := by
  simp [fillSlots]

theorem fillSlots_map_some (new text : List Char) : fillSlots new (text.map some) = text := by
  induction text with
  | nil => rfl
  | cons c text ih => rw [List.map_cons, fillSlots_char, ih]

section Placeholder

/- A placeholder is recognised by its first character, which it does not have again. -/
variable {first : Char} {inner : List Char} (hFirst : first ∉ inner)

/-- A text without the first character of the placeholder that stands before marked slots does not
reach into a slot. -/
theorem map_some_prefix_of_prefix {part : List Char} {marked : List (Option Char)}
    (hPart : first ∉ part) (h : part <+: fillSlots (first :: inner) marked) :
    part.map some <+: marked := by
  induction part generalizing marked with
  | nil => exact List.nil_prefix
  | cons c part ih =>
    rw [List.mem_cons, not_or] at hPart
    obtain ⟨hHead, hTail⟩ := hPart
    match marked, h with
    | [], h => exact absurd (List.prefix_nil.1 h) (List.cons_ne_nil c part)
    | none :: marked, h =>
      rw [fillSlots_slot, List.cons_append, List.cons_prefix_cons] at h
      exact absurd h.1.symm hHead
    | some b :: marked, h =>
      rw [fillSlots_char, List.cons_prefix_cons] at h
      obtain ⟨rfl, hRest⟩ := h
      exact List.cons_prefix_cons.2 ⟨rfl, ih hTail hRest⟩

include hFirst in
/-- A placeholder at the start of a text whose slots are filled in again stands before any slot, or
is the first slot. -/
theorem not_prefix_fillSlots {c : Char} {marked : List (Option Char)}
    (h : ¬ (first :: inner).map some <+: some c :: marked) :
    ¬ first :: inner <+: c :: fillSlots (first :: inner) marked := by
  intro hPrefix
  obtain ⟨rfl, hInner⟩ := List.cons_prefix_cons.1 hPrefix
  exact h (List.cons_prefix_cons.2 ⟨rfl, map_some_prefix_of_prefix hFirst hInner⟩)

/-- A marked text is empty, or begins with a slot, with a placeholder that is no slot, or with a
character with which no placeholder begins. -/
theorem marked_induction (first : Char) (inner : List Char)
    {motive : List (Option Char) → Prop} (nil : motive [])
    (slot : ∀ marked, motive marked → motive (none :: marked))
    (found : ∀ marked, motive marked → motive ((first :: inner).map some ++ marked))
    (char : ∀ c marked, ¬ (first :: inner).map some <+: some c :: marked → motive marked →
      motive (some c :: marked))
    (marked : List (Option Char)) : motive marked := by
  induction hLength : marked.length using Nat.strong_induction_on generalizing marked with
  | _ n ih =>
    subst hLength
    match marked with
    | [] => exact nil
    | none :: rest => exact slot rest (ih _ (Nat.lt_succ_self _) rest rfl)
    | some c :: rest =>
      by_cases hFound : (first :: inner).map some <+: some c :: rest
      · obtain ⟨after, hAfter⟩ := hFound
        rw [← hAfter]
        refine found after (ih _ ?_ after rfl)
        rw [← hAfter, List.length_append, List.length_map, List.length_cons]
        omega
      · exact char c rest hFound (ih _ (Nat.lt_succ_self _) rest rfl)

/-- A second substitution for the placeholder, after its slots have been marked by themselves. -/
def refill (first : Char) (inner new : List Char) (marked : List (Option Char)) : List Char :=
  replaceAll (first :: inner) new (fillSlots (first :: inner) marked)

theorem refill_slot (new : List Char) (marked : List (Option Char)) :
    refill first inner new (none :: marked) = new ++ refill first inner new marked := by
  rw [refill, fillSlots_slot, replaceAll_append _ _ (List.cons_ne_nil first inner), refill]

theorem refill_found (new : List Char) (marked : List (Option Char)) :
    refill first inner new ((first :: inner).map some ++ marked) =
      new ++ refill first inner new marked := by
  rw [refill, fillSlots_append, fillSlots_map_some,
    replaceAll_append _ _ (List.cons_ne_nil first inner), refill]

include hFirst in
theorem refill_char {c : Char} {marked : List (Option Char)} (new : List Char)
    (h : ¬ (first :: inner).map some <+: some c :: marked) :
    refill first inner new (some c :: marked) = c :: refill first inner new marked := by
  rw [refill, fillSlots_char, replaceAll_cons (not_prefix_fillSlots hFirst h), refill]

include hFirst in
/-- Each placeholder that is no slot changes the length by the difference to the new text. -/
theorem length_refill (new : List Char) (marked : List (Option Char)) :
    ∃ extra, (refill first inner new marked).length + (first :: inner).length * extra =
      (fillSlots new marked).length + new.length * extra := by
  induction marked using marked_induction first inner with
  | nil => exact ⟨0, rfl⟩
  | slot marked ih =>
    obtain ⟨extra, ih⟩ := ih
    refine ⟨extra, ?_⟩
    rw [refill_slot, fillSlots_slot, List.length_append, List.length_append]
    omega
  | found marked ih =>
    obtain ⟨extra, ih⟩ := ih
    refine ⟨extra + 1, ?_⟩
    rw [refill_found, fillSlots_append, fillSlots_map_some, List.length_append, List.length_append]
    linarith
  | char c marked hNone ih =>
    obtain ⟨extra, ih⟩ := ih
    refine ⟨extra, ?_⟩
    rw [refill_char hFirst new hNone, fillSlots_char]
    simp only [List.length_cons] at ih ⊢
    omega

include hFirst in
/-- **Filling in again.** A substitution fills in the marked slots and nothing else exactly when
there is no placeholder but the slots, or when it changes nothing. -/
theorem refill_eq_iff (new : List Char) (marked : List (Option Char)) :
    refill first inner new marked = fillSlots new marked ↔
      new = first :: inner ∨ ¬ (first :: inner).map some <:+: marked := by
  induction marked using marked_induction first inner with
  | nil => simp [refill]
  | slot marked ih =>
    have hInfix : (first :: inner).map some <:+: none :: marked ↔
        (first :: inner).map some <:+: marked := by
      simp [List.infix_cons_iff]
    rw [refill_slot, fillSlots_slot, List.append_cancel_left_eq, ih, hInfix]
  | found marked ih =>
    have hInfix : (first :: inner).map some <:+: (first :: inner).map some ++ marked :=
      (List.prefix_append _ _).isInfix
    rw [refill_found, fillSlots_append, fillSlots_map_some]
    constructor
    · intro hEq
      -- the placeholder that is no slot gives the lengths away, unless the new text is as long
      obtain ⟨extra, hExtra⟩ := length_refill hFirst new marked
      have hLength := congrArg List.length hEq
      rw [List.length_append, List.length_append] at hLength
      have hProducts : new.length * (extra + 1) = (first :: inner).length * (extra + 1) := by
        linarith
      have hSame : new.length = (first :: inner).length :=
        Nat.eq_of_mul_eq_mul_right (Nat.succ_pos extra) hProducts
      exact Or.inl (List.append_inj hEq hSame).1
    · rintro (rfl | hNone)
      · rw [ih.2 (Or.inl rfl)]
      · exact absurd hInfix hNone
  | char c marked hNone ih =>
    have hInfix : (first :: inner).map some <:+: some c :: marked ↔
        (first :: inner).map some <:+: marked := by
      rw [List.infix_cons_iff]
      exact or_iff_right hNone
    rw [refill_char hFirst new hNone, fillSlots_char, List.cons_inj_right, ih, hInfix]

end Placeholder

end Text

/-! ## Row formats -/

/-- A piece of a row format: a character, or a slot for the name or for the value. -/
inductive RowPart where
  | char (c : Char)
  | name
  | value
  deriving DecidableEq, Repr

/-- The pieces of a row format, in one pass from left to right. -/
def rowParts : List Char → List RowPart
  | [] => []
  | '\x7b' :: 'n' :: 'a' :: 'm' :: 'e' :: '\x7d' :: rest => .name :: rowParts rest
  | '\x7b' :: 'v' :: 'a' :: 'l' :: 'u' :: 'e' :: '\x7d' :: rest => .value :: rowParts rest
  | c :: rest => .char c :: rowParts rest

/-- A row format with all its slots filled in at once. -/
def fillParts (name value : List Char) (parts : List RowPart) : List Char :=
  parts.flatMap fun
    | .char c => [c]
    | .name => name
    | .value => value

/-- A row format with the name put in and the slots for the value still marked. -/
def nameParts (name : List Char) (parts : List RowPart) : List (Option Char) :=
  parts.flatMap fun
    | .char c => [some c]
    | .name => name.map some
    | .value => [none]

/-- The row format of some options. -/
def Options.format (o : Options) : List Char :=
  (o.rowFormat.map String.toList).getD defaultRowFormat

/-- A row whose name and value are filled into the format at once. -/
def Options.filledRow (o : Options) (name value : String) : String :=
  String.ofList (fillParts (o.formatName name).toList value.toList (rowParts o.format))

/-- The name first and then the value fill in all slots. -/
theorem fillSlots_nameParts (name value : List Char) (parts : List RowPart) :
    Text.fillSlots value (nameParts name parts) = fillParts name value parts := by
  induction parts with
  | nil => rfl
  | cons part parts ih =>
    have hHead :
        nameParts name (part :: parts) = nameParts name [part] ++ nameParts name parts := by
      simp [nameParts]
    rw [hHead, Text.fillSlots_append, ih]
    cases part <;> simp [nameParts, fillParts, Text.fillSlots_map_some]

/-- The substitution of the name puts it into its slots and leaves those for the value. -/
theorem replaceAll_namePlaceholder (name format : List Char) :
    Text.replaceAll namePlaceholder name format =
      fillParts name valuePlaceholder (rowParts format) := by
  fun_induction rowParts format with
  | case1 => rfl
  | case2 rest ih =>
    have hSlot : Text.replaceAll namePlaceholder name (namePlaceholder ++ rest) =
        name ++ Text.replaceAll namePlaceholder name rest :=
      Text.replaceAll_append name rest (by decide)
    exact hSlot.trans (congrArg (name ++ ·) ih)
  | case3 rest ih =>
    -- no slot for the name begins within a slot for the value
    have hSlot : Text.replaceAll namePlaceholder name (valuePlaceholder ++ rest) =
        valuePlaceholder ++ Text.replaceAll namePlaceholder name rest := by
      simp [Text.replaceAll, Text.replaceFrom, Text.startsWith, Text.stripStart?, namePlaceholder,
        valuePlaceholder]
    exact hSlot.trans (congrArg (valuePlaceholder ++ ·) ih)
  | case4 c rest hName hValue ih =>
    have hNone : ¬ namePlaceholder <+: c :: rest := by
      rintro ⟨after, hAfter⟩
      cases hAfter
      exact hName after rfl rfl
    exact (Text.replaceAll_cons hNone).trans (congrArg (c :: ·) ih)

/-- A row is the format with the name put in and all that then looks like a slot for the value
filled in. -/
theorem Options.formatRow_eq_refill {o : Options} (hPlain : o.composite = false)
    (name value : String) :
    o.formatRow name value = String.ofList (Text.refill '\x7b' ['v', 'a', 'l', 'u', 'e', '\x7d']
      value.toList (nameParts (o.formatName name).toList (rowParts o.format))) := by
  simp only [formatRow, hPlain, Bool.false_eq_true, if_false]
  rw [← format, replaceAll_namePlaceholder, ← fillSlots_nameParts, Text.refill]
  rfl

/-- **Filled in at once.** A row is its format with all slots filled in at once, exactly when the
name makes no further slot for the value, or when the value is the text of such a slot. -/
theorem Options.formatRow_eq_filledRow_iff {o : Options} (hPlain : o.composite = false)
    (name value : String) :
    o.formatRow name value = o.filledRow name value ↔
      value.toList = valuePlaceholder ∨
        ¬ valuePlaceholder.map some <:+:
          nameParts (o.formatName name).toList (rowParts o.format) := by
  rw [formatRow_eq_refill hPlain, filledRow, String.ofList_inj, ← fillSlots_nameParts]
  exact Text.refill_eq_iff (by decide) value.toList _

/-- A quoted name stays apart from the braces around it. -/
theorem Options.formatRow_eq_filledRow_quoted :
    let o : Options := { rowFormat := some "\x7b\x7bname\x7d\x7d: \x7bvalue\x7d", quote := true }
    o.composite = false ∧
      o.formatRow "value" "\x7bname\x7d" = o.filledRow "value" "\x7bname\x7d" := by
  intro o
  have hNone : ¬ valuePlaceholder.map some <:+:
      nameParts (o.formatName "value").toList (rowParts o.format) := by decide +kernel
  exact ⟨rfl, (formatRow_eq_filledRow_iff rfl _ _).2 (Or.inr hNone)⟩

/-- A name between braces becomes a slot for the value. -/
theorem Options.formatRow_ne_filledRow_of_braces :
    let o : Options := { rowFormat := some "#define \x7b\x7bname\x7d\x7d \x7bvalue\x7d" }
    o.composite = false ∧ o.formatRow "value" "7" = "#define 7 7" ∧
      o.filledRow "value" "7" = "#define \x7bvalue\x7d 7" := by
  decide +kernel

end HeaderFacts

/-!
# Blank characters

The characters of the Unicode property `White_Space`, and trimming by them. Lines of a template,
widths of a counted repetition and verbose patterns all mean this set when they speak of space.

Main definitions:

* `Text.isBlank` — membership in `White_Space`.
* `Text.trimStart`, `Text.trimEnd`, `Text.trim` — removal of blanks at the ends of a text.
* `Text.NoBlankEnds` — the texts that trimming leaves as they are.

Main results:

* `trim_of_noBlankEnds`, `trim_between_blanks` — what trimming leaves, without and with blanks around.
-/

namespace HeaderFacts.Text

/-- The Unicode property `White_Space`. -/
def isBlank (c : Char) : Bool :=
  let n := c.toNat
  (9 ≤ n && n ≤ 13) || n == 0x20 || n == 0x85 || n == 0xA0 || n == 0x1680 ||
    (0x2000 ≤ n && n ≤ 0x200A) || n == 0x2028 || n == 0x2029 || n == 0x202F || n == 0x205F ||
    n == 0x3000

/-- Drops the blanks a text begins with. -/
def trimStart (cs : List Char) : List Char :=
  cs.dropWhile isBlank

/-- Drops the blanks a text ends with. -/
def trimEnd (cs : List Char) : List Char :=
  (cs.reverse.dropWhile isBlank).reverse

/-- Drops the blanks at both ends of a text. -/
def trim (cs : List Char) : List Char :=
  trimEnd (trimStart cs)

@[simp] theorem trimStart_nil : trimStart [] = [] := rfl

@[simp] theorem trimEnd_nil : trimEnd [] = [] := rfl

@[simp] theorem trim_nil : trim [] = [] := rfl

/-! ## Trimmed texts -/

/-- A text that neither begins nor ends with a blank. -/
def NoBlankEnds (cs : List Char) : Prop :=
  (∀ c, cs.head? = some c → isBlank c = false) ∧ ∀ c, cs.getLast? = some c → isBlank c = false

theorem head?_dropWhile_isBlank {cs : List Char} {c : Char}
    (h : (cs.dropWhile isBlank).head? = some c) : isBlank c = false := by
  have := List.head?_dropWhile_not isBlank cs
  rw [h] at this
  simpa using this

theorem dropWhile_isBlank_of_head {cs : List Char}
    (h : ∀ c, cs.head? = some c → isBlank c = false) : cs.dropWhile isBlank = cs := by
  cases cs with
  | nil => rfl
  | cons c cs => rw [List.dropWhile_cons, if_neg (by simp [h c rfl])]

theorem trimEnd_of_noBlankEnds {cs : List Char} (h : NoBlankEnds cs) : trimEnd cs = cs := by
  rw [trimEnd, dropWhile_isBlank_of_head, List.reverse_reverse]
  simpa using h.2

theorem trim_of_noBlankEnds {cs : List Char} (h : NoBlankEnds cs) : trim cs = cs := by
  rw [trim, trimStart, dropWhile_isBlank_of_head h.1, trimEnd_of_noBlankEnds h]

theorem trimEnd_prefix (cs : List Char) : trimEnd cs <+: cs := by
  rw [trimEnd, ← List.reverse_suffix, List.reverse_reverse]
  exact List.dropWhile_suffix _

theorem noBlankEnds_trimEnd {cs : List Char} (h : ∀ c, cs.head? = some c → isBlank c = false) :
    NoBlankEnds (trimEnd cs) := by
  constructor
  · intro c hc
    apply h
    obtain ⟨rest, hRest⟩ := trimEnd_prefix cs
    rw [← hRest, List.head?_append, hc]
    rfl
  · intro c hc
    rw [trimEnd, List.getLast?_reverse] at hc
    exact head?_dropWhile_isBlank hc

theorem noBlankEnds_trim (cs : List Char) : NoBlankEnds (trim cs) :=
  noBlankEnds_trimEnd fun _ => head?_dropWhile_isBlank

/-- Whatever stands between two texts does not show at the ends. -/
theorem noBlankEnds_append {cs ds : List Char} (hcs : NoBlankEnds cs) (hds : NoBlankEnds ds)
    (hFront : cs ≠ []) (hBack : ds ≠ []) (mid : List Char) : NoBlankEnds (cs ++ (mid ++ ds)) := by
  constructor
  · intro c hc
    obtain ⟨d, cs, rfl⟩ := List.exists_cons_of_ne_nil hFront
    exact hcs.1 c hc
  · intro c hc
    apply hds.2 c
    rw [List.getLast?_append, List.getLast?_append] at hc
    cases hLast : ds.getLast? with
    | none => exact absurd (List.getLast?_eq_none_iff.1 hLast) hBack
    | some d =>
      rw [hLast] at hc
      exact hc

/-! ## Blanks around a text -/

theorem trim_blanks_append {before : List Char} (h : ∀ c ∈ before, isBlank c = true)
    (cs : List Char) : trim (before ++ cs) = trim cs := by
  rw [trim, trimStart, List.dropWhile_append_of_pos h]
  rfl

theorem trimEnd_append_blanks {after : List Char} (h : ∀ c ∈ after, isBlank c = true)
    (cs : List Char) : trimEnd (cs ++ after) = trimEnd cs := by
  have hReverse : ∀ c ∈ after.reverse, isBlank c = true := by simpa using h
  rw [trimEnd, List.reverse_append, List.dropWhile_append_of_pos hReverse]
  rfl

theorem trim_append_blanks {after : List Char} (h : ∀ c ∈ after, isBlank c = true)
    (cs : List Char) : trim (cs ++ after) = trim cs := by
  rw [trim, trim, trimStart, trimStart, List.dropWhile_append]
  split
  · next hBlank =>
    -- both are nothing but blanks
    have hAfter : after.dropWhile isBlank = [] := by
      rw [← List.append_nil after, List.dropWhile_append_of_pos h]
      rfl
    rw [hAfter, List.isEmpty_iff.1 hBlank]
  · exact trimEnd_append_blanks h _

/-- Trimming takes a text without blanks at its ends out of the blanks around it. -/
theorem trim_between_blanks {before cs after : List Char} (hBefore : ∀ c ∈ before, isBlank c = true)
    (hAfter : ∀ c ∈ after, isBlank c = true) (h : NoBlankEnds cs) :
    trim (before ++ cs ++ after) = cs := by
  rw [trim_append_blanks hAfter, trim_blanks_append hBefore, trim_of_noBlankEnds h]

end HeaderFacts.Text

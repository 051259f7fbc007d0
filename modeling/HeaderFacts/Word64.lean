/-!
# 64-bit words

Numbers that fit a signed word of 64 bits.

Main definitions:

* `wordOf?` — the word of a number.

Main results:

* `wordOf?_eq_some_iff` — a number has a word exactly when it is that word's value.
-/

namespace HeaderFacts

/-- The word of a number, if the number fits. -/
def wordOf? (n : Int) : Option Int64 :=
  if h : Int64.minValue.toInt ≤ n ∧ n ≤ Int64.maxValue.toInt then
    some (Int64.ofIntLE n h.1 h.2)
  else none

/-- A number has a word exactly when it is that word's value. -/
theorem wordOf?_eq_some_iff {n : Int} {w : Int64} : wordOf? n = some w ↔ w.toInt = n := by
  unfold wordOf?
  constructor
  · intro h
    split at h
    · cases h
      exact Int64.toInt_ofIntLE
    · cases h
  · rintro rfl
    rw [dif_pos ⟨w.minValue_le_toInt, w.toInt_le⟩, Int64.ofIntLE_toInt]

end HeaderFacts

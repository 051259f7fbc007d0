/-!
# Maps in key order

A finite map from text keys, kept as a list of entries in strictly increasing order of the keys.
Strings compare by code point, which is the byte order of their UTF-8 forms. The order is part of
the type, so two maps with the same entries are equal, whatever history built them.

Main definitions:

* `KeyMap` — the entries and the proof that their keys increase.
* `KeyMap.get?`, `KeyMap.insert`, `KeyMap.modify`, `KeyMap.ofList` — lookup and construction.

Main results:

* `KeyMap.get?_insert` — an insertion is seen under its key and nowhere else.
-/

namespace HeaderFacts

/-- A map from text keys whose entries are in strictly increasing key order. -/
structure KeyMap (α : Type) where
  entries : List (String × α)
  increasing : entries.Pairwise (fun p q => p.1 < q.1)
  deriving DecidableEq, Repr

namespace KeyMap

variable {α : Type}

/-- The map without entries. -/
def empty : KeyMap α := ⟨[], .nil⟩

instance : Inhabited (KeyMap α) := ⟨empty⟩

/-- The value at a key in a list of entries. -/
def lookupEntry (key : String) : List (String × α) → Option α
  | [] => none
  | (k, v) :: rest => if k = key then some v else lookupEntry key rest

/-- Puts a value at its place among the entries, instead of one that has the same key. -/
def insertEntry (key : String) (value : α) : List (String × α) → List (String × α)
  | [] => [(key, value)]
  | (k, v) :: rest =>
    if key < k then (key, value) :: (k, v) :: rest
    else if key = k then (key, value) :: rest
    else (k, v) :: insertEntry key value rest

/-! ## Key order -/

theorem mem_insertEntry {key : String} {value : α} {e : String × α} {l : List (String × α)}
    (h : e ∈ insertEntry key value l) : e = (key, value) ∨ e ∈ l := by
  induction l with
  | nil => simpa [insertEntry] using h
  | cons p rest ih =>
    obtain ⟨k, v⟩ := p
    simp only [insertEntry] at h
    split at h
    · simpa using h
    · split at h
      · rcases List.mem_cons.1 h with h | h
        · exact .inl h
        · exact .inr (List.mem_cons_of_mem _ h)
      · rcases List.mem_cons.1 h with h | h
        · exact .inr (h ▸ List.mem_cons_self)
        · rcases ih h with h | h
          · exact .inl h
          · exact .inr (List.mem_cons_of_mem _ h)

theorem mem_map_insertEntry {key : String} {value : α} {e : String × α} {l : List (String × α)}
    (h : e ∈ l) : e.1 ∈ (insertEntry key value l).map Prod.fst := by
  induction l with
  | nil => cases h
  | cons p rest ih =>
    simp only [insertEntry]
    split
    · exact List.mem_map_of_mem (List.mem_cons_of_mem _ h)
    · rcases List.mem_cons.1 h with rfl | h
      · split
        · next hEq => exact hEq ▸ List.mem_cons_self
        · exact List.mem_cons_self
      · split
        · exact List.mem_cons_of_mem _ (List.mem_map_of_mem h)
        · exact List.mem_cons_of_mem _ (ih h)

/-- Of two different keys one is the smaller. -/
theorem lt_of_not_lt_of_ne {a b : String} (h : ¬ a < b) (hne : a ≠ b) : b < a := by
  have hle : b ≤ a := String.not_lt.1 h
  rcases Decidable.em (b < a) with h' | h'
  · exact h'
  · exact absurd (String.le_antisymm (String.not_lt.1 h') hle) hne

theorem insertEntry_increasing (key : String) (value : α) {l : List (String × α)}
    (h : l.Pairwise (fun p q => p.1 < q.1)) :
    (insertEntry key value l).Pairwise (fun p q => p.1 < q.1) := by
  induction l with
  | nil => simp [insertEntry]
  | cons p rest ih =>
    obtain ⟨k, v⟩ := p
    rw [List.pairwise_cons] at h
    simp only [insertEntry]
    split
    · next hlt =>
      refine List.pairwise_cons.2 ⟨fun q hq => ?_, List.pairwise_cons.2 h⟩
      rcases List.mem_cons.1 hq with rfl | hq
      · exact hlt
      · exact String.lt_trans hlt (h.1 q hq)
    · next hlt =>
      split
      · next heq =>
        subst heq
        exact List.pairwise_cons.2 h
      · next hne =>
        refine List.pairwise_cons.2 ⟨fun q hq => ?_, ih h.2⟩
        rcases mem_insertEntry hq with rfl | hq
        · exact lt_of_not_lt_of_ne hlt hne
        · exact h.1 q hq

/-! ## Operations -/

/-- The value at a key. -/
def get? (m : KeyMap α) (key : String) : Option α :=
  lookupEntry key m.entries

/-- Whether a key has a value. -/
def contains (m : KeyMap α) (key : String) : Bool :=
  (m.get? key).isSome

/-- Gives a key a value, instead of the one it had. -/
def insert (m : KeyMap α) (key : String) (value : α) : KeyMap α :=
  ⟨insertEntry key value m.entries, insertEntry_increasing key value m.increasing⟩

/-- Gives a key the value that `f` makes of the one it had. -/
def modify (m : KeyMap α) (key : String) (f : Option α → α) : KeyMap α :=
  m.insert key (f (m.get? key))

/-- The map of a list of entries; of two entries with one key the later counts. -/
def ofList (entries : List (String × α)) : KeyMap α :=
  entries.foldl (fun m (key, value) => m.insert key value) empty

/-- The keys, in increasing order. -/
def keys (m : KeyMap α) : List String :=
  m.entries.map Prod.fst

/-- The values, in the order of their keys. -/
def values (m : KeyMap α) : List α :=
  m.entries.map Prod.snd

/-- Whether the map has no entries. -/
def isEmpty (m : KeyMap α) : Bool :=
  m.entries.isEmpty

/-! ## Lookup -/

theorem lookupEntry_insertEntry (key k : String) (value : α) (l : List (String × α)) :
    lookupEntry k (insertEntry key value l) = if key = k then some value else lookupEntry k l := by
  induction l with
  | nil => simp [insertEntry, lookupEntry]
  | cons p rest ih =>
    obtain ⟨k', v'⟩ := p
    simp only [insertEntry]
    split
    · simp [lookupEntry]
    · split
      · next heq => subst heq; simp only [lookupEntry]; split <;> rfl
      · next hne =>
        simp only [lookupEntry, ih]
        split
        · next h => subst h; simp [hne]
        · rfl

/-- An insertion is seen under its key and nowhere else. -/
@[simp] theorem get?_insert (m : KeyMap α) (key k : String) (value : α) :
    (m.insert key value).get? k = if key = k then some value else m.get? k :=
  lookupEntry_insertEntry key k value m.entries

/-- An insertion has no keys but its own and the ones before it. -/
theorem mem_keys_insert {m : KeyMap α} {key k : String} {value : α}
    (h : k ∈ (m.insert key value).keys) : k = key ∨ k ∈ m.keys := by
  obtain ⟨e, he, rfl⟩ := List.mem_map.1 h
  rcases mem_insertEntry he with rfl | hOld
  · exact .inl rfl
  · exact .inr (List.mem_map_of_mem hOld)

/-- The keys before an insertion are keys after it. -/
theorem mem_keys_insert_of_mem {m : KeyMap α} {key k : String} {value : α} (h : k ∈ m.keys) :
    k ∈ (m.insert key value).keys := by
  obtain ⟨e, he, rfl⟩ := List.mem_map.1 h
  exact mem_map_insertEntry he

@[simp] theorem get?_empty (key : String) : (empty : KeyMap α).get? key = none := rfl

end KeyMap

end HeaderFacts

import HeaderFacts.KeyMap
import HeaderFacts.Proofs.ByteOrder
import Mathlib.Data.List.Sort

/-!
# What a map holds

The entries of a map stand in strictly increasing order of their keys, so each key has one entry or
none, and the lookup of a key finds it. Entries and lookups tell the same about a map: the entries in
their order rebuild it, and two maps in which every key has the same value are equal.

Main results:

* `ofList_entries` — a map is the map of its entries.
* `filter_entries` — the entries of a key are what its lookup finds.
* `ext_get?` — maps with the same lookups are equal.
* `keys_increasing` — keys stand in the order of their bytes.
-/

namespace HeaderFacts.KeyMap

variable {α : Type}

/-! ## Entries -/

/-- Maps with the same entries are equal. -/
theorem ext_entries {m n : KeyMap α} (h : m.entries = n.entries) : m = n := by
  cases m
  cases n
  cases h
  rfl

/-- An entry with the greatest key comes last. -/
theorem insertEntry_last {key : String} {value : α} {l : List (String × α)}
    (h : ∀ e ∈ l, e.1 < key) : insertEntry key value l = l ++ [(key, value)] := by
  induction l with
  | nil => rfl
  | cons e rest ih =>
    have hHead : e.1 < key := h e List.mem_cons_self
    have hNotLess : ¬ key < e.1 := fun hLess => String.lt_irrefl _ (String.lt_trans hHead hLess)
    have hNotSame : key ≠ e.1 := fun hSame => String.lt_irrefl key (hSame ▸ hHead)
    rw [insertEntry, if_neg hNotLess, if_neg hNotSame,
      ih fun other hOther => h other (List.mem_cons_of_mem _ hOther), List.cons_append]

/-- Entries in increasing order of their keys are added one after the other. -/
theorem entries_foldl_insert (l : List (String × α)) (m : KeyMap α)
    (h : (m.entries ++ l).Pairwise fun p q => p.1 < q.1) :
    (l.foldl (fun m e => m.insert e.1 e.2) m).entries = m.entries ++ l := by
  induction l generalizing m with
  | nil => simp
  | cons e rest ih =>
    have hBefore : ∀ p ∈ m.entries, p.1 < e.1 :=
      fun p hp => (List.pairwise_append.1 h).2.2 p hp e List.mem_cons_self
    have hInsert : (m.insert e.1 e.2).entries = m.entries ++ [e] := insertEntry_last hBefore
    rw [List.foldl_cons, ih, hInsert, List.append_assoc, List.singleton_append]
    rw [hInsert, List.append_assoc]
    exact h

/-- A map is the map of its entries. -/
theorem ofList_entries (m : KeyMap α) : ofList m.entries = m :=
  ext_entries (entries_foldl_insert m.entries empty m.increasing)

/-! ## Lookups -/

/-- In increasing order of the keys, the entries of a key are what its lookup finds. -/
theorem filter_lookupEntry {l : List (String × α)} (h : l.Pairwise fun p q => p.1 < q.1)
    (key : String) : l.filter (·.1 = key) = (lookupEntry key l).toList.map (Prod.mk key) := by
  induction l with
  | nil => rfl
  | cons e rest ih =>
    obtain ⟨k, v⟩ := e
    obtain ⟨hHead, hRest⟩ := List.pairwise_cons.1 h
    by_cases hKey : k = key
    · -- every later key is greater
      have hNone : rest.filter (·.1 = key) = [] := by
        rw [List.filter_eq_nil_iff]
        intro other hOther hSame
        have hGreater := hHead other hOther
        rw [hKey, of_decide_eq_true hSame] at hGreater
        exact String.lt_irrefl key hGreater
      rw [List.filter_cons_of_pos (by simpa using hKey), hNone, lookupEntry, if_pos hKey, hKey]
      rfl
    · rw [List.filter_cons_of_neg (by simpa using hKey), lookupEntry, if_neg hKey, ih hRest]

/-- The entries of a key are what its lookup finds. -/
theorem filter_entries (m : KeyMap α) (key : String) :
    m.entries.filter (·.1 = key) = (m.get? key).toList.map (Prod.mk key) :=
  filter_lookupEntry m.increasing key

theorem mem_entries_iff {m : KeyMap α} {key : String} {value : α} :
    (key, value) ∈ m.entries ↔ m.get? key = some value := by
  have hOwn : (key, value) ∈ m.entries ↔ (key, value) ∈ m.entries.filter (·.1 = key) := by
    simp
  rw [hOwn, filter_entries]
  simp

/-- Maps in which every key has the same value are equal. -/
theorem ext_get? {m n : KeyMap α} (h : ∀ key, m.get? key = n.get? key) : m = n := by
  have hIrrefl : Std.Irrefl fun p q : String × α => p.1 < q.1 := ⟨fun p => String.lt_irrefl p.1⟩
  have hAntisymm : Std.Antisymm fun p q : String × α => p.1 < q.1 :=
    ⟨fun p q hLess hGreater => absurd (String.lt_trans hLess hGreater) (String.lt_irrefl p.1)⟩
  apply ext_entries
  -- both lists of entries are sorted, so it is enough that they have the same members
  apply m.increasing.eq_of_mem_iff n.increasing
  rintro ⟨key, value⟩
  rw [mem_entries_iff, mem_entries_iff, h key]

/-- Keys stand in strictly increasing order of their bytes. -/
theorem keys_increasing (m : KeyMap α) :
    m.keys.Pairwise fun a b => Text.bytes a < Text.bytes b := by
  rw [keys, List.pairwise_map]
  exact m.increasing.imp fun h => (Text.bytes_lt_iff _ _).2 h

end HeaderFacts.KeyMap

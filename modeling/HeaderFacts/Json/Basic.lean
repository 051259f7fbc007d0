import HeaderFacts.Word64

/-!
# JSON values

The values of JSON, with the members of an object in the order in which they are written, repeated
ones included. Of numbers only integers are told apart. An escape can name half of a surrogate
pair; text with such an escape is well formed, but there is no string that it denotes.

Main definitions:

* `Json` — a value; two values can be compared.
* `Json.record?` — the parts of a record, which is an object or an array.
-/

namespace HeaderFacts

/-- A JSON value. -/
inductive Json where
  | null
  | bool (b : Bool)
  | int (n : Int)
  /-- A number with a fraction or an exponent, and `-0`. -/
  | real
  | str (s : String)
  /-- A value with text that denotes no string. -/
  | unreadable
  | arr (items : List Json)
  | obj (members : List (String × Json))
  deriving Repr, Inhabited

namespace Json

/-! ## Equality -/

mutual

/-- Whether two values are the same. -/
def same : Json → Json → Bool
  | null, null => true
  | bool a, bool b => a == b
  | int a, int b => a == b
  | real, real => true
  | str a, str b => a == b
  | unreadable, unreadable => true
  | arr as, arr bs => sameItems as bs
  | obj as, obj bs => sameMembers as bs
  | _, _ => false

/-- Whether the elements of two arrays are the same. -/
def sameItems : List Json → List Json → Bool
  | [], [] => true
  | a :: as, b :: bs => same a b && sameItems as bs
  | _, _ => false

/-- Whether the members of two objects are the same. -/
def sameMembers : List (String × Json) → List (String × Json) → Bool
  | [], [] => true
  | (k, a) :: as, (l, b) :: bs => k == l && same a b && sameMembers as bs
  | _, _ => false

end

mutual

theorem same_iff (a b : Json) : same a b = true ↔ a = b := by
  cases a <;> cases b
  case arr.arr as bs => rw [same, sameItems_iff, arr.injEq]
  case obj.obj as bs => rw [same, sameMembers_iff, obj.injEq]
  all_goals simp [same]

theorem sameItems_iff (as bs : List Json) : sameItems as bs = true ↔ as = bs := by
  cases as with
  | nil => cases bs <;> simp [sameItems]
  | cons a as =>
    cases bs with
    | nil => simp [sameItems]
    | cons b bs => simp [sameItems, same_iff a b, sameItems_iff as bs]

theorem sameMembers_iff (as bs : List (String × Json)) : sameMembers as bs = true ↔ as = bs := by
  cases as with
  | nil => cases bs <;> simp [sameMembers]
  | cons e as =>
    obtain ⟨k, a⟩ := e
    cases bs with
    | nil => simp [sameMembers]
    | cons f bs =>
      obtain ⟨l, b⟩ := f
      simp [sameMembers, same_iff a b, sameMembers_iff as bs]

end

instance : DecidableEq Json := fun a b => decidable_of_iff _ (same_iff a b)

/-! ## Parts -/

/-- The string of a value. -/
def asString? : Json → Option String
  | str s => some s
  | _ => none

/-- The truth value of a value. -/
def asBool? : Json → Option Bool
  | bool b => some b
  | _ => none

/-- The 64-bit word of a value. -/
def asInt64? : Json → Option Int64
  | int n => wordOf? n
  | _ => none

/-- The elements of a value, each read by `f`. -/
def asList? {α : Type} (f : Json → Option α) : Json → Option (List α)
  | arr items => items.mapM f
  | _ => none

/-- The members of a value, each read by `f`. -/
def asMembers? {α : Type} (f : Json → Option α) : Json → Option (List (String × α))
  | obj members => members.mapM fun (key, value) => (f value).map (key, ·)
  | _ => none

/-- Nothing for null, and otherwise what `f` reads. -/
def asOption? {α : Type} (f : Json → Option α) : Json → Option (Option α)
  | null => some none
  | value => (f value).map some

/-- The values of a key. -/
def valuesOf (key : String) (members : List (String × Json)) : List Json :=
  (members.filter (·.1 = key)).map Prod.snd

/-- The parts of a record with the given keys. An object has each of them once at most, and may
have other members; an array has them in order and may stop early. -/
def record? (keys : List String) : Json → Option (List (Option Json))
  | obj members =>
    keys.mapM fun key =>
      match valuesOf key members with
      | [] => some none
      | [value] => some (some value)
      | _ => none
  | arr items =>
    if items.length ≤ keys.length then
      some (items.map some ++ List.replicate (keys.length - items.length) none)
    else none
  | _ => none

end Json

end HeaderFacts

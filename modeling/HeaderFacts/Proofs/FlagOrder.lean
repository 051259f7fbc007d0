import HeaderFacts.Proofs.RoundTrip

/-!
# Flags in any order

The flags of a directive stand before its headers in groups: a switch by itself, and any other flag
with the word behind it for its value. Each flag has a part of the draft to itself. A group reads
and changes the part of its own flag and no other, so what all groups come to can be said flag by
flag: the values of one flag, from left to right, are added to what its part held before. The order
of groups of different flags cannot be seen in that. Neither can the order of groups of a flag that
may be given once, as there is only one of them.

Main definitions:

* `ValueFlag.Kept`, `ValueFlag.add` — the part of a draft that belongs to a flag, and what one more
  value does to it.
* `FlagGroup`, `FlagGroup.take` — a flag with its value, and what it does to a draft.
* `FlagGroup.Said` — what groups come to, flag by flag.
* `FlagGroup.Reordered` — the same groups in another order.

Main results:

* `Draft.store_eq_add` — a value changes the part of its own flag.
* `FlagGroup.readFrom_groups` — groups are taken one after the other.
* `FlagGroup.foldlM_take_eq_ok_iff` — taking groups succeeds exactly with what they come to.
* `FlagGroup.foldlM_take_of_passes` — a change that no group sees can be made before or after them.
* `FlagGroup.ofArgs_reordered` — the order of flags does not matter.
-/

namespace HeaderFacts

/-! ## What a draft keeps of a flag -/

namespace ValueFlag

/-- What a draft keeps of the values of a flag. -/
abbrev Kept : ValueFlag → Type
  | kind => Option NodeKind
  | enumType => Option String
  | pattern => List NamePattern
  | exclude => List String
  | strip => Option String
  | property => Option PropertySelector
  | rowFormat => Option String
  | define => List Define

/-- Whether a flag adds to a list. Any other may be given once. -/
def isList : ValueFlag → Bool
  | pattern | exclude | define => true
  | kind | enumType | strip | property | rowFormat => false

/-- What is kept after one more value. -/
def add : (flag : ValueFlag) → flag.Kept → String → Except ExtractionError flag.Kept
  | kind, old, text => do Draft.once kind old (← NodeKind.ofText text)
  | enumType, old, text => Draft.once enumType old text
  | pattern, old, text => do return old ++ [← NamePattern.ofSource text]
  | exclude, old, text => return old ++ [text]
  | strip, old, text => Draft.once strip old text
  | property, old, text => do Draft.once property old (← PropertySelector.ofText text)
  | rowFormat, old, text => Draft.once rowFormat old text
  | define, old, text => do return old ++ [← Define.ofText text]

end ValueFlag

namespace Draft

/-- What is kept of a flag. -/
def kept (d : Draft) : (flag : ValueFlag) → flag.Kept
  | .kind => d.options.kind
  | .enumType => d.options.enumType
  | .pattern => d.options.patterns
  | .exclude => d.options.excluded
  | .strip => d.options.stripped
  | .property => d.selector
  | .rowFormat => d.options.rowFormat
  | .define => d.defines

/-- The draft in which something else is kept of a flag. -/
def keep (d : Draft) : (flag : ValueFlag) → flag.Kept → Draft
  | .kind, kind => { d with options := { d.options with kind } }
  | .enumType, enumType => { d with options := { d.options with enumType } }
  | .pattern, patterns => { d with options := { d.options with patterns } }
  | .exclude, excluded => { d with options := { d.options with excluded } }
  | .strip, stripped => { d with options := { d.options with stripped } }
  | .property, selector => { d with selector }
  | .rowFormat, rowFormat => { d with options := { d.options with rowFormat } }
  | .define, defines => { d with defines }

/-- Whether a switch is set. -/
def isSet (d : Draft) : Switch → Bool
  | .composite => d.options.composite
  | .quote => d.options.quote
  | .rawTokens => d.options.rawTokens
  | .largeFile => d.options.largeFile

/-- What no flag changes. -/
def untouched (d : Draft) : Option Property × List String × List String :=
  (d.options.property, d.headers, d.userArgs)

@[simp] theorem kept_keep_self (d : Draft) (flag : ValueFlag) (x : flag.Kept) :
    (d.keep flag x).kept flag = x := by
  cases flag <;> rfl

theorem kept_keep_of_ne (d : Draft) {flag other : ValueFlag} (h : other ≠ flag) (x : flag.Kept) :
    (d.keep flag x).kept other = d.kept other := by
  cases flag <;> cases other <;> first | rfl | exact absurd rfl h

theorem keep_comm (d : Draft) {flag other : ValueFlag} (h : other ≠ flag) (x : flag.Kept)
    (y : other.Kept) : (d.keep flag x).keep other y = (d.keep other y).keep flag x := by
  cases flag <;> cases other <;> first | rfl | exact absurd rfl h

@[simp] theorem isSet_keep (d : Draft) (flag : ValueFlag) (x : flag.Kept) (switch : Switch) :
    (d.keep flag x).isSet switch = d.isSet switch := by
  cases flag <;> cases switch <;> rfl

@[simp] theorem untouched_keep (d : Draft) (flag : ValueFlag) (x : flag.Kept) :
    (d.keep flag x).untouched = d.untouched := by
  cases flag <;> rfl

@[simp] theorem kept_flip (d : Draft) (switch : Switch) (flag : ValueFlag) :
    (d.flip switch).kept flag = d.kept flag := by
  cases switch <;> cases flag <;> rfl

theorem isSet_flip (d : Draft) (switch other : Switch) :
    (d.flip switch).isSet other = true ↔ other = switch ∨ d.isSet other = true := by
  cases switch <;> cases other <;> simp [isSet, flip]

@[simp] theorem untouched_flip (d : Draft) (switch : Switch) :
    (d.flip switch).untouched = d.untouched := by
  cases switch <;> rfl

theorem keep_flip (d : Draft) (switch : Switch) (flag : ValueFlag) (x : flag.Kept) :
    (d.flip switch).keep flag x = (d.keep flag x).flip switch := by
  cases switch <;> cases flag <;> rfl

theorem flip_comm (d : Draft) (switch other : Switch) :
    (d.flip switch).flip other = (d.flip other).flip switch := by
  cases switch <;> cases other <;> rfl

/-- A value changes the part of its own flag. -/
theorem store_eq_add (d : Draft) (flag : ValueFlag) (value : String) :
    d.store flag value = d.keep flag <$> flag.add (d.kept flag) value := by
  cases flag
  all_goals
    simp only [store, ValueFlag.add, bind_pure_comp, map_bind, map_pure, Functor.map_map]
    rfl

/-- A draft is what it keeps of the flags and what no flag changes. -/
theorem ext_kept {d e : Draft} (hKept : ∀ flag, d.kept flag = e.kept flag)
    (hSet : ∀ switch, d.isSet switch = e.isSet switch) (hUntouched : d.untouched = e.untouched) :
    d = e := by
  have hKind := hKept .kind
  have hEnumType := hKept .enumType
  have hPatterns := hKept .pattern
  have hExcluded := hKept .exclude
  have hStripped := hKept .strip
  have hSelector := hKept .property
  have hRowFormat := hKept .rowFormat
  have hDefines := hKept .define
  have hComposite := hSet .composite
  have hQuote := hSet .quote
  have hRawTokens := hSet .rawTokens
  have hLargeFile := hSet .largeFile
  -- between them these name every field of a draft
  obtain ⟨⟨⟩⟩ := d
  obtain ⟨⟨⟩⟩ := e
  simp only [kept, isSet, untouched, Prod.mk.injEq] at *
  simp [*]

end Draft

/-! ## Groups of flags -/

/-- A flag with what belongs to it: a switch by itself, any other flag with its value, which stands
between quotes or without them. -/
inductive FlagGroup where
  | switch (switch : Switch)
  | value (flag : ValueFlag) (isQuoted : Bool) (text : String)
  deriving DecidableEq, Repr

namespace FlagGroup

/-- The words of a group. -/
def words : FlagGroup → List Arg
  | switch s => [.bare s.text]
  | value flag isQuoted text => [.bare flag.text, if isQuoted then .quoted text else .bare text]

/-- The value that a group gives to a flag. -/
def valueOf? (flag : ValueFlag) : FlagGroup → Option String
  | switch _ => none
  | value other _ text => if other = flag then some text else none

/-- The values that groups give to a flag, from left to right. -/
def valuesOf (flag : ValueFlag) (groups : List FlagGroup) : List String :=
  groups.filterMap (valueOf? flag)

/-- What a group does to a draft. -/
def take (d : Draft) : FlagGroup → Except ExtractionError Draft
  | switch s => .ok (d.flip s)
  | value flag _ text => d.store flag text

variable {d next : Draft} {groups : List FlagGroup}

theorem untouched_of_take {group : FlagGroup} (h : take d group = .ok next) :
    next.untouched = d.untouched := by
  cases group with
  | switch s =>
    cases h
    exact d.untouched_flip s
  | value flag isQuoted text =>
    rw [take, Draft.store_eq_add] at h
    obtain ⟨x, -, rfl⟩ := ok_of_map h
    exact d.untouched_keep flag x

/-- The words of a group are taken together. -/
theorem readFrom_group (hHeaders : d.headers = []) (group : FlagGroup) (rest : List Arg) :
    Arguments.readFrom d (group.words ++ rest) = take d group >>= (Arguments.readFrom · rest) := by
  cases group with
  | switch s => exact Arguments.readFrom_switch hHeaders s rest
  | value flag isQuoted text =>
    -- with or without quotes, a value is no separator
    cases isQuoted with
    | false => exact Arguments.readFrom_value hHeaders flag (.bare text) (by simp) rest
    | true => exact Arguments.readFrom_value hHeaders flag (.quoted text) (by simp) rest

/-- Before any header, groups are taken one after the other, whatever words follow. -/
theorem readFrom_groups (hHeaders : d.headers = []) (groups : List FlagGroup) (rest : List Arg) :
    Arguments.readFrom d (groups.flatMap words ++ rest) =
      groups.foldlM take d >>= (Arguments.readFrom · rest) := by
  induction groups generalizing d with
  | nil => rfl
  | cons group groups ih =>
    rw [List.flatMap_cons, List.append_assoc, readFrom_group hHeaders, List.foldlM_cons, bind_assoc]
    cases hTake : take d group with
    | error err => rfl
    | ok next =>
      -- a flag is read as one only while there is no header, which no group changes
      have hSame : next.headers = d.headers :=
        congrArg (fun u => u.2.1) (untouched_of_take hTake)
      exact ih (hSame.trans hHeaders)

/-! ## What groups come to -/

@[simp] theorem valuesOf_nil (flag : ValueFlag) : valuesOf flag [] = [] :=
  rfl

@[simp] theorem valuesOf_switch (flag : ValueFlag) (s : Switch) (groups : List FlagGroup) :
    valuesOf flag (switch s :: groups) = valuesOf flag groups :=
  rfl

@[simp] theorem valuesOf_value_self (flag : ValueFlag) (isQuoted : Bool) (text : String)
    (groups : List FlagGroup) :
    valuesOf flag (value flag isQuoted text :: groups) = text :: valuesOf flag groups := by
  simp [valuesOf, valueOf?]

theorem valuesOf_value_of_ne {flag other : ValueFlag} (h : other ≠ flag) (isQuoted : Bool)
    (text : String) (groups : List FlagGroup) :
    valuesOf flag (value other isQuoted text :: groups) = valuesOf flag groups := by
  simp [valuesOf, valueOf?, h]

/-- What groups come to on top of a draft, flag by flag. -/
structure Said (groups : List FlagGroup) (d next : Draft) : Prop where
  values : ∀ flag, (valuesOf flag groups).foldlM flag.add (d.kept flag) = .ok (next.kept flag)
  switches : ∀ s, next.isSet s = true ↔ switch s ∈ groups ∨ d.isSet s = true
  untouched : next.untouched = d.untouched

theorem said_nil_iff : Said [] d next ↔ d = next := by
  constructor
  · intro h
    refine Draft.ext_kept ?_ ?_ h.untouched.symm
    · intro flag
      exact Except.ok.inj (h.values flag)
    · intro s
      rw [Bool.eq_iff_iff, h.switches s]
      simp
  · rintro rfl
    exact ⟨fun _ => rfl, by simp, rfl⟩

/-- A switch comes to a draft in which it is set. -/
theorem said_switch_iff {s : Switch} :
    Said (switch s :: groups) d next ↔ Said groups (d.flip s) next := by
  have hSet (t : Switch) : (switch t ∈ switch s :: groups ∨ d.isSet t = true) ↔
      switch t ∈ groups ∨ (d.flip s).isSet t = true := by
    rw [List.mem_cons, switch.injEq, Draft.isSet_flip, or_assoc, or_left_comm]
  constructor
  · intro h
    refine ⟨?_, ?_, ?_⟩
    · simpa using h.values
    · intro t
      rw [← hSet, h.switches]
    · simpa using h.untouched
  · intro h
    refine ⟨?_, ?_, ?_⟩
    · simpa using h.values
    · intro t
      rw [hSet, h.switches]
    · simpa using h.untouched

/-- A value comes to a draft in which it is kept, with the values of its flag that follow. -/
theorem said_value_iff {flag : ValueFlag} {isQuoted : Bool} {text : String} :
    Said (value flag isQuoted text :: groups) d next ↔
      ∃ x, flag.add (d.kept flag) text = .ok x ∧ Said groups (d.keep flag x) next := by
  constructor
  · intro h
    have hFlag := h.values flag
    rw [valuesOf_value_self, List.foldlM_cons] at hFlag
    obtain ⟨x, hAdd, hRest⟩ := ok_of_bind hFlag
    refine ⟨x, hAdd, ?_, ?_, ?_⟩
    · intro other
      by_cases hOther : other = flag
      · subst hOther
        rwa [Draft.kept_keep_self]
      · rw [Draft.kept_keep_of_ne d hOther]
        have hValues := h.values other
        rwa [valuesOf_value_of_ne (Ne.symm hOther)] at hValues
    · simpa using h.switches
    · simpa using h.untouched
  · rintro ⟨x, hAdd, h⟩
    refine ⟨?_, ?_, ?_⟩
    · intro other
      have hValues := h.values other
      by_cases hOther : other = flag
      · subst hOther
        rw [Draft.kept_keep_self] at hValues
        rw [valuesOf_value_self, List.foldlM_cons, hAdd]
        exact hValues
      · rw [Draft.kept_keep_of_ne d hOther] at hValues
        rwa [valuesOf_value_of_ne (Ne.symm hOther)]
    · simpa using h.switches
    · simpa using h.untouched

/-- Taking groups succeeds exactly with what they come to. -/
theorem foldlM_take_eq_ok_iff : groups.foldlM take d = .ok next ↔ Said groups d next := by
  -- by induction on the groups: the first one moves from what is said to the draft it is said on
  induction groups generalizing d with
  | nil =>
    rw [said_nil_iff, List.foldlM_nil]
    exact Except.ok.injEq d next ▸ Iff.rfl
  | cons group groups ih =>
    rw [List.foldlM_cons]
    cases group with
    | switch s =>
      rw [said_switch_iff, ← ih]
      rfl
    | value flag isQuoted text =>
      rw [said_value_iff, take, Draft.store_eq_add]
      cases hAdd : flag.add (d.kept flag) text with
      | error err =>
        constructor
        · intro h
          cases h
        · rintro ⟨x, hOk, -⟩
          cases hOk
      | ok x =>
        constructor
        · intro h
          exact ⟨x, rfl, ih.1 h⟩
        · rintro ⟨y, hOk, h⟩
          cases hOk
          exact ih.2 h

/-! ## Changes that no group sees -/

/-- A change of drafts that a group does not see. -/
def Passes (change : Draft → Draft) (group : FlagGroup) : Prop :=
  ∀ d, take (change d) group = change <$> take d group

/-- A change that no group sees can be made before or after the groups. -/
theorem foldlM_take_of_passes {change : Draft → Draft} (h : ∀ group ∈ groups, Passes change group)
    (d : Draft) : groups.foldlM take (change d) = change <$> groups.foldlM take d := by
  induction groups generalizing d with
  | nil => rfl
  | cons group groups ih =>
    obtain ⟨hGroup, hGroups⟩ := List.forall_mem_cons.1 h
    rw [List.foldlM_cons, List.foldlM_cons, hGroup d, map_bind, bind_map_left]
    exact bind_congr fun next => ih hGroups next

/-- No group sees whether a switch is set. -/
theorem passes_flip (s : Switch) (group : FlagGroup) : Passes (·.flip s) group := by
  intro d
  cases group with
  | switch other => exact congrArg Except.ok (d.flip_comm s other)
  | value flag isQuoted text =>
    rw [take, take, Draft.store_eq_add, Draft.store_eq_add, Draft.kept_flip, Functor.map_map]
    exact congrArg (· <$> _) (funext (d.keep_flip s flag))

/-- A group sees nothing of the flags to which it gives no value. -/
theorem passes_keep {flag : ValueFlag} {group : FlagGroup} (h : valueOf? flag group = none)
    (x : flag.Kept) : Passes (·.keep flag x) group := by
  intro d
  cases group with
  | switch s => exact congrArg Except.ok (d.keep_flip s flag x).symm
  | value other isQuoted text =>
    have hOther : other ≠ flag := by
      intro hSame
      simp [valueOf?, hSame] at h
    rw [take, take, Draft.store_eq_add, Draft.store_eq_add, Draft.kept_keep_of_ne d hOther,
      Functor.map_map]
    exact congrArg (· <$> _) (funext (d.keep_comm hOther x))

/-- Groups that give no value to a flag leave its part of the draft as it was. -/
theorem kept_of_others {flag : ValueFlag} (hOther : ∀ group ∈ groups, valueOf? flag group = none)
    (hTake : groups.foldlM take d = .ok next) : next.kept flag = d.kept flag := by
  have hNone : valuesOf flag groups = [] := List.filterMap_eq_nil_iff.2 hOther
  have hKept := (foldlM_take_eq_ok_iff.1 hTake).values flag
  rw [hNone] at hKept
  exact (Except.ok.inj hKept).symm

/-- The only value of a flag can be kept after all other groups. -/
theorem foldlM_take_only {flag : ValueFlag} {before after : List FlagGroup}
    (hOther : ∀ group ∈ before ++ after, valueOf? flag group = none) {x : flag.Kept} {text : String}
    (hAdd : flag.add (d.kept flag) text = .ok x) (isQuoted : Bool) :
    (before ++ value flag isQuoted text :: after).foldlM take d =
      (·.keep flag x) <$> (before ++ after).foldlM take d := by
  obtain ⟨hBefore, hAfter⟩ := List.forall_mem_append.1 hOther
  rw [List.foldlM_append, List.foldlM_append, map_bind]
  cases hTake : before.foldlM take d with
  | error err => rfl
  | ok mid =>
    -- the part of the flag is still what it was before the first group
    have hStore : take mid (value flag isQuoted text) = .ok (mid.keep flag x) := by
      rw [take, Draft.store_eq_add, kept_of_others hBefore hTake, hAdd]
      rfl
    show (value flag isQuoted text :: after).foldlM take mid = _
    rw [List.foldlM_cons, hStore]
    exact foldlM_take_of_passes (fun group hGroup => passes_keep (hAfter group hGroup) x) mid

/-- A switch can be flipped after all other groups. -/
theorem foldlM_take_switch (s : Switch) (before after : List FlagGroup) (d : Draft) :
    (before ++ switch s :: after).foldlM take d =
      (·.flip s) <$> (before ++ after).foldlM take d := by
  rw [List.foldlM_append, List.foldlM_append, map_bind]
  apply bind_congr
  intro mid
  exact foldlM_take_of_passes (fun group _ => passes_flip s group) mid

/-- A switch that is set once more stays set. -/
theorem foldlM_take_repeated {s : Switch} {before after : List FlagGroup}
    (h : switch s ∈ before ++ after) (d : Draft) :
    (before ++ switch s :: after).foldlM take d = (before ++ after).foldlM take d := by
  obtain ⟨front, back, hSplit⟩ := List.append_of_mem h
  have hTwice (e : Draft) : (e.flip s).flip s = e.flip s := by
    cases s <;> rfl
  rw [foldlM_take_switch, hSplit, foldlM_take_switch, Functor.map_map]
  exact congrArg (· <$> _) (funext hTwice)

/-! ## Other orders -/

/-- A second value of a flag that may be given once is refused. -/
theorem add_twice {flag : ValueFlag} (hOnce : flag.isList = false) {old new : flag.Kept}
    {text : String} (h : flag.add old text = .ok new) (more : String) :
    ∃ err, flag.add new more = .error err := by
  cases flag with
  | pattern | exclude | define => cases hOnce
  -- a value is read before it is kept, so the second one is refused by one or the other
  | kind =>
    obtain ⟨kind, -, hStore⟩ := ok_of_bind h
    rw [Draft.eq_some_of_once hStore]
    cases hMore : NodeKind.ofText more with
    | error err => exact ⟨err, by rw [ValueFlag.add, hMore]; rfl⟩
    | ok other => exact ⟨_, by rw [ValueFlag.add, hMore]; rfl⟩
  | property =>
    obtain ⟨selector, -, hStore⟩ := ok_of_bind h
    rw [Draft.eq_some_of_once hStore]
    cases hMore : PropertySelector.ofText more with
    | error err => exact ⟨err, by rw [ValueFlag.add, hMore]; rfl⟩
    | ok other => exact ⟨_, by rw [ValueFlag.add, hMore]; rfl⟩
  | enumType | strip | rowFormat =>
    rw [Draft.eq_some_of_once h]
    exact ⟨_, rfl⟩

/-- A flag that may be given once has been given no more than that where its values are kept. -/
theorem length_le_one_of_add {flag : ValueFlag} (hOnce : flag.isList = false)
    {texts : List String} {old new : flag.Kept} (h : texts.foldlM flag.add old = .ok new) :
    texts.length ≤ 1 := by
  match texts, h with
  | [], _ => simp
  | [_], _ => simp
  | first :: second :: rest, h =>
    obtain ⟨mid, hFirst, h⟩ := ok_of_bind h
    obtain ⟨last, hSecond, -⟩ := ok_of_bind h
    obtain ⟨err, hRefused⟩ := add_twice hOnce hFirst second
    rw [hRefused] at hSecond
    cases hSecond

/-- The same groups in another order, in which the values of a flag that adds to a list have kept
theirs. -/
structure Reordered (groups others : List FlagGroup) : Prop where
  perm : groups.Perm others
  inOrder : ∀ flag : ValueFlag, flag.isList = true → valuesOf flag groups = valuesOf flag others

theorem Reordered.symm {others : List FlagGroup} (h : Reordered groups others) :
    Reordered others groups :=
  ⟨h.perm.symm, fun flag hList => (h.inOrder flag hList).symm⟩

/-- In another order groups come to the same. -/
theorem Said.reordered {others : List FlagGroup} (h : Said groups d next)
    (hOrder : Reordered groups others) : Said others d next := by
  refine ⟨?_, ?_, h.untouched⟩
  · intro flag
    have hPerm : (valuesOf flag groups).Perm (valuesOf flag others) :=
      hOrder.perm.filterMap (valueOf? flag)
    -- all that a flag's part depends on is the list of its values
    have hSame : valuesOf flag groups = valuesOf flag others := by
      cases hList : flag.isList with
      | true => exact hOrder.inOrder flag hList
      | false =>
        -- one value has no other order
        have hLength := length_le_one_of_add hList (h.values flag)
        match hValues : valuesOf flag groups, hLength with
        | [], _ => exact (hValues ▸ hPerm).nil_eq
        | [text], _ => exact (hValues ▸ hPerm).singleton_eq
    rw [← hSame]
    exact h.values flag
  · intro s
    rw [h.switches s, hOrder.perm.mem_iff]

/-- Whether flags can be read, and what they say, is the same in another order. -/
theorem ofArgs_eq_ok_of_reordered {others : List FlagGroup} (hOrder : Reordered groups others)
    {rest : List Arg} {a : Arguments}
    (h : Arguments.ofArgs (groups.flatMap words ++ rest) = .ok a) :
    Arguments.ofArgs (others.flatMap words ++ rest) = .ok a := by
  rw [Arguments.ofArgs, readFrom_groups rfl] at h ⊢
  obtain ⟨read, hRead, hDraft⟩ := ok_of_bind h
  obtain ⟨flagged, hTake, hRest⟩ := ok_of_bind hRead
  have hOthers : others.foldlM take {} = .ok flagged :=
    foldlM_take_eq_ok_iff.2 ((foldlM_take_eq_ok_iff.1 hTake).reordered hOrder)
  rw [hOthers]
  show (Arguments.readFrom flagged rest >>= Arguments.ofDraft) = .ok a
  rw [hRest]
  exact hDraft

/-- A flag that may be given once is refused where it is given twice. -/
theorem ofArgs_of_two {flag : ValueFlag} (hOnce : flag.isList = false)
    (hTwo : 2 ≤ (valuesOf flag groups).length) (rest : List Arg) :
    ∃ err, Arguments.ofArgs (groups.flatMap words ++ rest) = .error err := by
  rw [Arguments.ofArgs, readFrom_groups rfl]
  cases hTake : groups.foldlM take {} with
  | error err => exact ⟨err, rfl⟩
  | ok flagged =>
    have hLength := length_le_one_of_add hOnce ((foldlM_take_eq_ok_iff.1 hTake).values flag)
    omega

/-- **Flags in any order.** Words begin with groups of flags, and whatever follows stays. In another
order of the groups, in which only the values of a flag that adds to a list have kept theirs, the
words say the same, if they can be read at all. A switch that is set once more changes nothing,
wherever it stands. A flag that may be given once is refused in every order where it is given
twice. -/
theorem ofArgs_reordered {groups others : List FlagGroup} (hOrder : Reordered groups others)
    (rest : List Arg) :
    let read (groups : List FlagGroup) := Arguments.ofArgs (groups.flatMap words ++ rest)
    (∀ a, read groups = .ok a ↔ read others = .ok a) ∧
    (∀ s before after, groups = before ++ after → switch s ∈ groups →
      read (before ++ switch s :: after) = read groups) ∧
    ∀ flag : ValueFlag, flag.isList = false → 2 ≤ (valuesOf flag groups).length →
      (∃ err, read groups = .error err) ∧ ∃ err, read others = .error err := by
  intro read
  refine ⟨?_, ?_, ?_⟩
  · intro a
    exact ⟨ofArgs_eq_ok_of_reordered hOrder, ofArgs_eq_ok_of_reordered hOrder.symm⟩
  · rintro s before after rfl hSet
    simp only [read, Arguments.ofArgs]
    rw [readFrom_groups rfl, readFrom_groups rfl, foldlM_take_repeated hSet]
  · intro flag hOnce hTwo
    have hLength : (valuesOf flag groups).length = (valuesOf flag others).length :=
      (hOrder.perm.filterMap (valueOf? flag)).length_eq
    have hOthers : 2 ≤ (valuesOf flag others).length := hLength ▸ hTwo
    exact ⟨ofArgs_of_two hOnce hTwo rest, ofArgs_of_two hOnce hOthers rest⟩

/-- Two definitions of one macro keep their order, and two values look like flags. -/
theorem ofArgs_reordered_flagLike :
    let groups : List FlagGroup :=
      [value .define false "N=1", switch .largeFile, value .kind false "EnumConstantDecl",
        value .exclude false "-C", value .define true "N=2", value .enumType true "-A"]
    let others : List FlagGroup :=
      [value .enumType true "-A", value .define false "N=1", value .define true "N=2",
        value .exclude false "-C", value .kind false "EnumConstantDecl", switch .largeFile]
    let rest : List Arg := [.bare "a.h", .separator, .bare "-C"]
    let a : Arguments :=
      { options :=
          { kind := some .enumConstantDecl, enumType := some "-A", excluded := ["-C"],
            largeFile := true }
        defines := [("N", "1"), ("N", "2")]
        headers := ["a.h"]
        userArgs := ["-C"] }
    Reordered groups others ∧ Arguments.ofArgs (groups.flatMap words ++ rest) = .ok a ∧
      Arguments.ofArgs (others.flatMap words ++ rest) = .ok a ∧
      Arguments.ofArgs ((groups ++ [switch .largeFile]).flatMap words ++ rest) = .ok a := by
  intro groups others rest a
  have hOrder : Reordered groups others := by
    refine ⟨by decide, ?_⟩
    intro flag hList
    cases flag with
    | pattern | exclude | define => rfl
    | kind | enumType | strip | property | rowFormat => cases hList
  have hRead : Arguments.ofArgs (groups.flatMap words ++ rest) = .ok a := by decide +kernel
  obtain ⟨hSame, hRepeated, -⟩ := ofArgs_reordered hOrder rest
  have hAgain := hRepeated .largeFile groups [] (List.append_nil groups).symm (by decide)
  exact ⟨hOrder, hRead, (hSame a).1 hRead, hAgain.trans hRead⟩

end FlagGroup

end HeaderFacts

import HeaderFacts.Proofs.FlagOrder

/-!
# Two places for the member of an offset

The member whose offset is asked for stands behind a colon in the value of `-a`, or else it is the
only positional argument. Either spelling says what the other flags and the headers say by
themselves, and the member besides: no other flag sees the part of the draft that belongs to `-a`,
so it does not matter whether the member is found before the headers or after them.

The spellings part only over a member without a name. Behind a colon it is refused. Among the
positional arguments nothing looks at the name, and the offset of a nameless member is asked for.

Main definitions:

* `Arguments.withMember` — arguments that ask for the offset of a member.
* `Arguments.conclude` — what is left to do once the flags have been taken.

Main results:

* `FlagGroup.ofArgs_inline`, `FlagGroup.ofArgs_apart` — what the two spellings say.
* `FlagGroup.ofArgs_member_spellings` — the spellings agree on every member that has a name.
* `FlagGroup.ofArgs_nameless_member` — the spellings of a member without a name.
-/

namespace HeaderFacts

namespace Arguments

/-- The arguments with the offset of a member for their property. -/
def withMember (member : String) (a : Arguments) : Arguments :=
  { a with options := { a.options with property := some (.offset member) } }

/-- What is left to do once the flags have been taken: headers and positional arguments are noted,
and the draft is settled. -/
def conclude (headers userArgs : List String) (d : Draft) : Except ExtractionError Arguments :=
  ofDraft { d with headers, userArgs }

/-- Drafts that differ in nothing but what they settle to. -/
theorem ofDraft_withMember {d e : Draft} {member : String} (hOptions : d.options = e.options)
    (hDefines : d.defines = e.defines) (hHeaders : d.headers = e.headers)
    (hMember : settle d.selector d.userArgs = .ok (some (.offset member), []))
    (hNone : settle e.selector e.userArgs = .ok (none, [])) :
    ofDraft d = withMember member <$> ofDraft e := by
  rw [ofDraft, ofDraft, hOptions, hDefines, hHeaders, hMember, hNone]
  -- both are refused by the same check, of headers or of the kind beside `-e`, or by none
  cases e.headers.isEmpty with
  | true => rfl
  | false =>
    cases e.options.kind with
    | none => rfl
    | some kind =>
      cases e.options.enumType with
      | none => rfl
      | some enumType =>
        by_cases hKind : kind = .enumConstantDecl <;> simp [hKind] <;> rfl

/-- A member that stood behind the colon is settled as one beside the flags. -/
theorem conclude_inline {d : Draft} (hFree : d.selector = none) (headers : List String)
    (member : String) :
    conclude headers [] (d.keep .property (some (.offset (some member)))) =
      withMember member <$> conclude headers [] d := by
  refine ofDraft_withMember rfl rfl rfl rfl ?_
  show settle d.selector [] = _
  rw [hFree]
  rfl

/-- A member that is the only positional argument is settled as one beside the flags. -/
theorem conclude_apart {d : Draft} (hFree : d.selector = none) (headers : List String)
    (member : String) :
    conclude headers [member] (d.keep .property (some (.offset none))) =
      withMember member <$> conclude headers [] d := by
  refine ofDraft_withMember rfl rfl rfl rfl ?_
  show settle d.selector [] = _
  rw [hFree]
  rfl

/-- Settling leaves no positional arguments where there were none. -/
theorem userArgs_of_settle_nil {selector : Option PropertySelector}
    {settled : Option Property × List String} (h : settle selector [] = .ok settled) :
    settled.2 = [] := by
  match selector, h with
  | none, h | some .size, h | some .alignment, h | some (.offset (some _)), h =>
    cases h
    rfl
  | some (.offset none), h => cases h

end Arguments

namespace FlagGroup

open Arguments (ofArgs readFrom conclude withMember)

variable {groups before after : List FlagGroup} {headers : List Arg} {member : String}

/-! ## What stands behind the groups -/

/-- Flags are read before what stands behind them. -/
theorem ofArgs_eq_conclude {rest : List Arg} {headers userArgs : List String}
    (hRest : ∀ d : Draft, d.headers = [] → d.userArgs = [] →
      readFrom d rest = .ok { d with headers, userArgs }) :
    ofArgs (groups.flatMap words ++ rest) =
      groups.foldlM take {} >>= conclude headers userArgs := by
  rw [ofArgs, readFrom_groups rfl, bind_assoc]
  cases hTake : groups.foldlM take {} with
  | error err => rfl
  | ok flagged =>
    have hUntouched := (foldlM_take_eq_ok_iff.1 hTake).untouched
    show (readFrom flagged rest >>= Arguments.ofDraft) = _
    rw [hRest flagged (congrArg (·.2.1) hUntouched) (congrArg (·.2.2) hUntouched)]
    rfl

variable (hHeaders : ∀ word ∈ headers, word.isFlag = false ∧ word ≠ .separator)

include hHeaders

theorem ofArgs_headers :
    ofArgs (groups.flatMap words ++ headers) =
      groups.foldlM take {} >>= conclude (headers.map Arg.text) [] := by
  apply ofArgs_eq_conclude
  intro d hNone hFree
  have hRead := Arguments.reads_unflagged hHeaders d []
  rw [List.append_nil, hNone, List.nil_append] at hRead
  rw [hRead, ← hFree]
  rfl

theorem ofArgs_headers_positional (positional : Arg) :
    ofArgs (groups.flatMap words ++ (headers ++ [.separator, positional])) =
      groups.foldlM take {} >>= conclude (headers.map Arg.text) [positional.text] := by
  apply ofArgs_eq_conclude
  intro d hNone hFree
  rw [Arguments.reads_unflagged hHeaders d, hNone]
  rfl

/-! ## The two spellings -/

omit hHeaders in
/-- Where no group gives a value to `-a`, its part of the draft is free afterwards. -/
theorem foldlM_take_bind_congr (hOther : ∀ group ∈ groups, valueOf? .property group = none)
    {f g : Draft → Except ExtractionError Arguments}
    (h : ∀ d : Draft, d.selector = none → f d = g d) :
    groups.foldlM take {} >>= f = groups.foldlM take {} >>= g := by
  cases hTake : groups.foldlM take {} with
  | error err => rfl
  | ok flagged => exact h flagged (kept_of_others hOther hTake)

variable (hOther : ∀ group ∈ before ++ after, valueOf? .property group = none)

include hOther

/-- A member behind the colon is all that its spelling adds. -/
theorem ofArgs_inline (hMember : member ≠ "") (isQuoted : Bool) :
    ofArgs ((before ++ value .property isQuoted ("offset:" ++ member) :: after).flatMap words ++
        headers) =
      withMember member <$> ofArgs ((before ++ after).flatMap words ++ headers) := by
  have hText : PropertySelector.ofText ("offset:" ++ member) = .ok (.offset (some member)) :=
    PropertySelector.ofText_offset hMember
  have hAdd : ValueFlag.property.add (Draft.kept {} .property) ("offset:" ++ member) =
      .ok (some (.offset (some member))) := by
    rw [ValueFlag.add, hText]
    rfl
  rw [ofArgs_headers hHeaders, ofArgs_headers hHeaders, foldlM_take_only hOther hAdd,
    bind_map_left, map_bind]
  exact foldlM_take_bind_congr hOther fun d hFree => Arguments.conclude_inline hFree _ member

/-- A member among the positional arguments is all that its spelling adds. -/
theorem ofArgs_apart (isQuoted : Bool) {positional : Arg} (hMember : positional.text = member) :
    ofArgs ((before ++ value .property isQuoted "offset" :: after).flatMap words ++
        (headers ++ [.separator, positional])) =
      withMember member <$> ofArgs ((before ++ after).flatMap words ++ headers) := by
  have hAdd : ValueFlag.property.add (Draft.kept {} .property) "offset" =
      .ok (some (.offset none)) := rfl
  rw [ofArgs_headers_positional hHeaders, ofArgs_headers hHeaders, foldlM_take_only hOther hAdd,
    bind_map_left, map_bind, hMember]
  exact foldlM_take_bind_congr hOther fun d hFree => Arguments.conclude_apart hFree _ member

omit hHeaders in
/-- Nothing behind the colon is refused, whatever the other flags and the headers are. -/
theorem ofArgs_inline_nameless (isQuoted : Bool) :
    ∃ err, ofArgs ((before ++ value .property isQuoted "offset:" :: after).flatMap words ++
      headers) = .error err := by
  rw [ofArgs, readFrom_groups rfl]
  cases hTake : (before ++ value .property isQuoted "offset:" :: after).foldlM take {} with
  | error err => exact ⟨err, rfl⟩
  | ok flagged =>
    -- it would have to be kept as the only value of its flag, but it cannot be read
    obtain ⟨hBefore, hAfter⟩ := List.forall_mem_append.1 hOther
    have hOnly : valuesOf .property (before ++ value .property isQuoted "offset:" :: after) =
        ["offset:"] := by
      rw [valuesOf, List.filterMap_append, List.filterMap_eq_nil_iff.2 hBefore, List.nil_append]
      rw [← valuesOf, valuesOf_value_self, valuesOf, List.filterMap_eq_nil_iff.2 hAfter]
    have hKept := (foldlM_take_eq_ok_iff.1 hTake).values .property
    rw [hOnly] at hKept
    cases hKept

omit hOther in
/-- Where there are no positional arguments, none are left. -/
theorem userArgs_of_ofArgs {a : Arguments} (h : ofArgs (groups.flatMap words ++ headers) = .ok a) :
    a.userArgs = [] := by
  rw [ofArgs_headers hHeaders] at h
  obtain ⟨flagged, -, hDraft⟩ := ok_of_bind h
  have hSettles := Arguments.settles_of_ofDraft hDraft
  rw [conclude, Arguments.ofDraft_of_settles hSettles] at hDraft
  obtain ⟨settled, hSettle, rfl⟩ := ok_of_map hDraft
  exact Arguments.userArgs_of_settle_nil hSettle

/-- **Two places for a member.** Flags of which none is `-a`, and headers, may be given the offset
of a member in two ways: in one `-a` has the member behind a colon, in the other the member is the
only positional argument, and in both `-a` stands anywhere among the flags. If the member has a
name, the two say the same or fail alike, and what they say asks for the offset of the member and
leaves no positional arguments. Without a name the first is refused, but the second asks for the
offset of a member without a name wherever the flags and headers can be read by themselves. -/
theorem ofArgs_member_spellings {front back : List FlagGroup} {positional : Arg}
    (hSame : front ++ back = before ++ after) (hMember : positional.text = member)
    (isQuoted isQuoted' : Bool) :
    let inline := ofArgs
      ((before ++ value .property isQuoted ("offset:" ++ member) :: after).flatMap words ++ headers)
    let apart := ofArgs
      ((front ++ value .property isQuoted' "offset" :: back).flatMap words ++
        (headers ++ [.separator, positional]))
    let plain := ofArgs ((before ++ after).flatMap words ++ headers)
    (member ≠ "" → inline = apart ∧
      ∀ a, inline = .ok a → a.options.property = some (.offset member) ∧ a.userArgs = []) ∧
    (member = "" → (∃ err, inline = .error err) ∧
      ∀ a, plain = .ok a → apart = .ok (a.withMember "")) := by
  intro inline apart plain
  -- the member has no say in whether the rest can be read
  have hApart : apart = withMember member <$> plain := by
    have hOther' : ∀ group ∈ front ++ back, valueOf? .property group = none := hSame ▸ hOther
    rw [show plain = ofArgs ((front ++ back).flatMap words ++ headers) by rw [hSame]]
    exact ofArgs_apart hHeaders hOther' isQuoted' hMember
  constructor
  · intro hName
    have hInline : inline = withMember member <$> plain :=
      ofArgs_inline hHeaders hOther hName isQuoted
    refine ⟨hInline.trans hApart.symm, ?_⟩
    intro a hOk
    rw [hInline] at hOk
    obtain ⟨b, hPlain, rfl⟩ := ok_of_map hOk
    have hNone : b.userArgs = [] := userArgs_of_ofArgs hHeaders hPlain
    exact ⟨rfl, hNone⟩
  · rintro rfl
    constructor
    · exact ofArgs_inline_nameless hOther isQuoted
    · intro a hPlain
      rw [hApart, hPlain]
      rfl

omit hHeaders hOther in
/-- A member with a blank, a colon and a hyphen, between flags of which one has `-a` for its value,
and before a header that looks like a flag. -/
theorem ofArgs_member_spellings_hyphen :
    let before : List FlagGroup := [switch .largeFile, value .pattern false "dir.*"]
    let after : List FlagGroup := [value .exclude false "-a"]
    let headers : List Arg := [.quoted "-h", .bare "d.h"]
    let inline := ofArgs
      ((before ++ value .property true "offset:-a b:c" :: after).flatMap words ++ headers)
    let apart := ofArgs
      (([] ++ value .property false "offset" :: (before ++ after)).flatMap words ++
        (headers ++ [.separator, .quoted "-a b:c"]))
    let a : Arguments :=
      { options :=
          { patterns := (NamePattern.ofSource? "dir.*").toList
            excluded := ["-a"]
            property := some (.offset "-a b:c")
            largeFile := true }
        headers := ["-h", "d.h"] }
    (∀ word ∈ headers, word.isFlag = false ∧ word ≠ .separator) ∧
      (∀ group ∈ before ++ after, valueOf? .property group = none) ∧
      inline = .ok a ∧ apart = .ok a := by
  intro before after headers inline apart a
  have hHeaders : ∀ word ∈ headers, word.isFlag = false ∧ word ≠ .separator := by decide +kernel
  have hOther : ∀ group ∈ before ++ after, valueOf? .property group = none := by decide
  have hInline : inline = .ok a := by decide +kernel
  obtain ⟨hAgree, -⟩ :=
    ofArgs_member_spellings hHeaders hOther (List.nil_append (before ++ after))
      (show (Arg.quoted "-a b:c").text = "-a b:c" from rfl) true false
  obtain ⟨hSame, -⟩ := hAgree (by decide)
  exact ⟨hHeaders, hOther, hInline, hSame.symm.trans hInline⟩

omit hHeaders hOther in
/-- The two places do not agree on a member without a name: behind the colon it is refused, and as
the positional argument it is accepted. -/
theorem ofArgs_nameless_member :
    ofArgs ([value .property false "offset:"].flatMap words ++ [.bare "a.h"]) =
        .error (.malformed .memberMissing) ∧
      ofArgs ([value .property false "offset"].flatMap words ++
          ([.bare "a.h"] ++ [.separator, .quoted ""])) =
        .ok { options := { property := some (.offset "") }, headers := ["a.h"] } := by
  decide +kernel

end FlagGroup

end HeaderFacts

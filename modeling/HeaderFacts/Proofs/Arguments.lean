import HeaderFacts.Directive.Basic
import HeaderFacts.Proofs.FirstFailure

/-!
# Reading arguments

What reading the arguments of a directive can find. Whatever the words are, what is found is
well-formed: there is a header, constants of an enum are of no other kind, macros that are defined
have names, and a member without a name can only have been the one positional argument.

Each word changes a draft. A draft that is well-formed stays so, whatever the word is; at the end
the draft is checked and its property is settled.

Main definitions:

* `Draft.WellFormed` — what every draft keeps while words are read.
* `Arguments.WellFormed` — what arguments that are found have.

Main results:

* `Define.ofText_append`, `PropertySelector.ofText_offset` — values are read as they are written.
* `wellFormed_of_readFrom` — reading words keeps a draft well-formed.
* `wellFormed_of_ofArgs` — arguments that are found are well-formed.
-/

namespace HeaderFacts

/-! ## Values of flags -/

theorem NodeKind.ofText_text (kind : NodeKind) : NodeKind.ofText kind.text = .ok kind := by
  rw [ofText, ofText?_eq_some_iff.2 rfl]

theorem NamePattern.ofSource_source (p : NamePattern) : NamePattern.ofSource p.source = .ok p := by
  rw [ofSource, ofSource?_eq_some_iff.2 rfl]

namespace Define

theorem not_mem_of_isName {name : List Char} (h : isName name = true) : '=' ∉ name := by
  cases name with
  | nil => exact List.not_mem_nil
  | cons c cs =>
    rw [isName, Bool.and_eq_true, List.all_eq_true] at h
    intro hMem
    rcases List.mem_cons.1 hMem with rfl | hTail
    · exact absurd h.1 (by decide)
    · exact absurd (h.2 _ hTail) (by decide)

/-- A definition with a name is read as it is written, whatever its value. -/
theorem ofText_append {name : String} (h : isName name.toList = true) (value : String) :
    ofText (name ++ "=" ++ value) = .ok (name, value) := by
  have hChars : (name ++ "=" ++ value).toList = name.toList ++ '=' :: value.toList := by
    simp
  rw [ofText, hChars, Text.cut?_append (not_mem_of_isName h)]
  simp [h]

theorem isName_of_ofText {text : String} {define : Define} (h : ofText text = .ok define) :
    isName define.1.toList = true := by
  rw [ofText] at h
  split at h
  split at h
  · next hName =>
    cases h
    rw [String.toList_ofList]
    exact hName
  · cases h

end Define

namespace PropertySelector

/-- An offset with a member is read as it is written. -/
theorem ofText_offset {member : String} (h : member ≠ "") :
    ofText (Property.offset member).text = .ok (.offset (some member)) := by
  have hChars : (Property.offset member).text.toList = "offset".toList ++ ':' :: member.toList := by
    simp [Property.text]
  have hCut : Text.cut? ':' (Property.offset member).text.toList =
      some ("offset".toList, member.toList) := by
    rw [hChars, Text.cut?_append (by decide)]
  have hMember : member.toList.isEmpty = false := by simpa using h
  rw [ofText]
  · rw [hCut]
    simp [hMember]
  -- the text with a member is none of the texts without one
  all_goals
    intro hText
    rw [hText] at hChars
    cases hChars

/-- A member that is read has a name. -/
theorem ne_of_ofText {text : String} {s : PropertySelector} (h : ofText text = .ok s) :
    s ≠ .offset (some "") := by
  rintro rfl
  -- a member is read only after a colon, and not if nothing follows it
  unfold ofText at h
  split at h
  · cases h
  · cases h
  · cases h
  · split at h
    · cases h
    · next name member hCut =>
      split at h
      · cases h
      · cases h
      · split at h
        · cases h
        · next hMember =>
          have hEmpty : String.ofList member = "" := by simpa using h
          exact hMember (by simpa using hEmpty)
      · cases h

end PropertySelector

/-! ## Drafts -/

/-- Drafts that can be found: macros and the member of an offset have names. -/
structure Draft.WellFormed (d : Draft) : Prop where
  defines : ∀ define ∈ d.defines, Define.isName define.1.toList = true
  member : d.selector ≠ some (.offset (some ""))

namespace Draft

theorem wellFormed_empty : WellFormed {} := by
  constructor
  · simp
  · simp

theorem wellFormed_flip {d : Draft} (h : d.WellFormed) (switch : Switch) :
    (d.flip switch).WellFormed := by
  cases switch <;> exact ⟨h.defines, h.member⟩

theorem eq_some_of_once {α : Type} {flag : ValueFlag} {old next : Option α} {new : α}
    (h : once flag old new = .ok next) : next = some new := by
  cases old with
  | none => exact (Except.ok.inj h).symm
  | some _ => cases h

/-- What is stored has been read, so it is well-formed where it has to be. -/
theorem wellFormed_store {d next : Draft} {flag : ValueFlag} {value : String} (h : d.WellFormed)
    (hStore : d.store flag value = .ok next) : next.WellFormed := by
  cases flag with
  | kind =>
    obtain ⟨kind, -, hStore⟩ := ok_of_bind hStore
    obtain ⟨stored, -, hStore⟩ := ok_of_bind hStore
    cases hStore
    exact ⟨h.defines, h.member⟩
  | enumType | pattern | strip | rowFormat =>
    obtain ⟨stored, -, hStore⟩ := ok_of_bind hStore
    cases hStore
    exact ⟨h.defines, h.member⟩
  | exclude =>
    cases hStore
    exact ⟨h.defines, h.member⟩
  | property =>
    obtain ⟨selector, hSelector, hStore⟩ := ok_of_bind hStore
    obtain ⟨stored, hOnce, hStore⟩ := ok_of_bind hStore
    cases hStore
    refine ⟨h.defines, ?_⟩
    rw [eq_some_of_once hOnce]
    exact fun hNone => PropertySelector.ne_of_ofText hSelector (Option.some.inj hNone)
  | define =>
    obtain ⟨define, hDefine, hStore⟩ := ok_of_bind hStore
    cases hStore
    refine ⟨List.forall_mem_append.2 ⟨h.defines, ?_⟩, h.member⟩
    exact List.forall_mem_singleton.2 (Define.isName_of_ofText hDefine)

end Draft

namespace Arguments

/-- Arguments that can be found. -/
structure WellFormed (a : Arguments) : Prop where
  headers : a.headers ≠ []
  enumKind : ∀ kind enumType, a.options.kind = some kind → a.options.enumType = some enumType →
    kind = .enumConstantDecl
  defines : ∀ define ∈ a.defines, Define.isName define.1.toList = true
  /-- The member of an offset may be without a name only where it is the positional argument. -/
  member : a.userArgs ≠ [] → a.options.property ≠ some (.offset "")

/-- Reading words keeps a draft well-formed. -/
theorem wellFormed_of_readFrom {d next : Draft} {args : List Arg} (h : d.WellFormed)
    (hRead : readFrom d args = .ok next) : next.WellFormed := by
  -- along the reading: the words that are left are read on top of a well-formed draft again
  fun_induction readFrom d args with
  | case1 d =>
    cases hRead
    exact h
  | case2 d rest =>
    -- the separator: what follows is stored as it is
    cases hRead
    exact ⟨h.defines, h.member⟩
  | case3 d arg rest hSeparator hFlag ih =>
    -- a header
    exact ih ⟨h.defines, h.member⟩ hRead
  | case5 d arg rest hSeparator hFlag hHeaders switch hSwitch ih =>
    exact ih (Draft.wellFormed_flip h switch) hRead
  | case10 d arg hSeparator hFlag hHeaders flag hValue hSwitch value rest hValueSeparator stored
      hStore ih =>
    exact ih (Draft.wellFormed_store h hStore) hRead
  | case4 | case6 | case7 | case8 | case9 =>
    -- a flag after a header, an unknown one, or one whose value is missing or wrong
    cases hRead

/-- The member of an offset has a name, unless it was the only positional argument. -/
theorem ne_of_settle {selector : Option PropertySelector} {positional userArgs : List String}
    {property : Option Property} (hSelector : selector ≠ some (.offset (some "")))
    (h : settle selector positional = .ok (property, userArgs)) (hUser : userArgs ≠ []) :
    property ≠ some (.offset "") := by
  rintro rfl
  rw [settle.eq_def] at h
  split at h
  · cases h
  · cases h
  · cases h
  · -- the member stood in the selector
    cases h
    exact hSelector rfl
  · split at h
    · -- the member was the positional argument, and none is left
      cases h
      exact hUser rfl
    · cases h

/-- The arguments that a settled property and the rest of a draft make. -/
def ofSettled (d : Draft) (settled : Option Property × List String) : Arguments :=
  { options := { d.options with property := settled.1 }, defines := d.defines,
    headers := d.headers, userArgs := settled.2 }

/-- A draft from which arguments can be made: it has a header, and constants of an enum are of no
other kind. -/
structure Settles (d : Draft) : Prop where
  headers : d.headers ≠ []
  enumKind : ∀ kind enumType, d.options.kind = some kind → d.options.enumType = some enumType →
    kind = .enumConstantDecl

/-- A draft that settles says what its property settles to. -/
theorem ofDraft_of_settles {d : Draft} (h : Settles d) :
    ofDraft d = (settle d.selector d.userArgs).map (ofSettled d) := by
  have hNonempty : d.headers.isEmpty = false := by simpa using h.headers
  rw [ofDraft, hNonempty]
  cases hKind : d.options.kind with
  | none => rfl
  | some kind =>
    cases hEnum : d.options.enumType with
    | none => rfl
    | some enumType =>
      -- the only combination that is checked
      obtain rfl := h.enumKind kind enumType hKind hEnum
      rfl

theorem settles_of_ofDraft {d : Draft} {a : Arguments} (h : ofDraft d = .ok a) : Settles d := by
  rw [ofDraft] at h
  constructor
  · intro hHeaders
    rw [hHeaders] at h
    cases h
  · intro kind enumType hKind hEnum
    rw [hKind, hEnum] at h
    by_cases hConstant : kind = .enumConstantDecl
    · exact hConstant
    · split at h
      · cases h
      · dsimp only at h
        rw [if_pos hConstant] at h
        cases h

theorem wellFormed_of_ofDraft {d : Draft} {a : Arguments} (h : d.WellFormed)
    (hDraft : ofDraft d = .ok a) : a.WellFormed := by
  have hSettles := settles_of_ofDraft hDraft
  rw [ofDraft_of_settles hSettles] at hDraft
  cases hSettle : settle d.selector d.userArgs with
  | error err =>
    rw [hSettle] at hDraft
    cases hDraft
  | ok settled =>
    rw [hSettle] at hDraft
    cases hDraft
    exact ⟨hSettles.headers, hSettles.enumKind, h.defines, ne_of_settle h.member hSettle⟩

theorem wellFormed_of_ofArgs {args : List Arg} {a : Arguments} (h : ofArgs args = .ok a) :
    a.WellFormed := by
  obtain ⟨d, hRead, hDraft⟩ := ok_of_bind h
  exact wellFormed_of_ofDraft (wellFormed_of_readFrom Draft.wellFormed_empty hRead) hDraft

end Arguments

end HeaderFacts

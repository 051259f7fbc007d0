import HeaderFacts.Directive.Canonical
import HeaderFacts.Proofs.Arguments
import HeaderFacts.Proofs.Words

/-!
# Canonical text is read back

The canonical text of a directive that has been read is read as the same directive. Words are read
from the left, each on top of what the words before it said, so a group of words says something on
its own: it turns one draft into another, whatever words follow. What the words of an option say is
found from what one flag says, by induction where the flag may be given more than once.

Main definitions:

* `Arguments.Reads` — words that turn one draft into another.
* `Directive.WellFormed` — what directives that are found have.

Main results:

* `reads_optional`, `reads_many` — what the words of one option say.
* `ofArgs_words` — well-formed arguments are read from their words.
* `wellFormed_iff` — the well-formed arguments are those that some words say, and the well-formed
  directives those that some line says.
* `ofText_canonical` — a directive that has been read is read from its canonical text.
-/

namespace HeaderFacts

/-! ## Texts of flags -/

theorem Switch.ofText?_text (switch : Switch) : Switch.ofText? switch.text = some switch := by
  cases switch <;> rfl

theorem ValueFlag.ofText?_text (flag : ValueFlag) : ValueFlag.ofText? flag.text = some flag := by
  cases flag <;> rfl

theorem ValueFlag.switch_ofText?_text (flag : ValueFlag) : Switch.ofText? flag.text = none := by
  cases flag <;> rfl

theorem Switch.isFlag_text (switch : Switch) : (Arg.bare switch.text).isFlag = true := by
  cases switch <;> rfl

theorem ValueFlag.isFlag_text (flag : ValueFlag) : (Arg.bare flag.text).isFlag = true := by
  cases flag <;> rfl

namespace Arguments

/-! ## Words on top of a draft -/

/-- Words that turn one draft into another, whatever words follow. -/
def Reads (args : List Arg) (d next : Draft) : Prop :=
  ∀ rest, readFrom d (args ++ rest) = readFrom next rest

theorem reads_nil (d : Draft) : Reads [] d d :=
  fun _ => rfl

theorem Reads.append {args more : List Arg} {d mid next : Draft} (h : Reads args d mid)
    (hMore : Reads more mid next) : Reads (args ++ more) d next := by
  intro rest
  rw [List.append_assoc, h, hMore]

/-! ## Flags -/

section Flags

variable {d : Draft} (hHeaders : d.headers = [])

include hHeaders

/-- A switch is flipped, and the words behind it are read. -/
theorem readFrom_switch (switch : Switch) (rest : List Arg) :
    readFrom d (.bare switch.text :: rest) = readFrom (d.flip switch) rest := by
  have hFlag : (Arg.bare switch.text).text = switch.text := rfl
  rw [readFrom, switch.isFlag_text, hHeaders, hFlag, switch.ofText?_text]
  · rfl
  · simp

/-- The word behind any other flag is stored as its value, whatever it looks like. -/
theorem readFrom_value (flag : ValueFlag) (word : Arg) (hWord : word ≠ .separator)
    (rest : List Arg) :
    readFrom d (.bare flag.text :: word :: rest) =
      d.store flag word.text >>= (readFrom · rest) := by
  have hFlag : (Arg.bare flag.text).text = flag.text := rfl
  rw [readFrom, flag.isFlag_text, hHeaders, hFlag, flag.switch_ofText?_text, flag.ofText?_text]
  · cases word with
    | separator => exact absurd rfl hWord
    | bare text | quoted text =>
      simp only [Bool.not_true, Bool.false_eq_true, if_false]
      cases d.store flag _ <;> rfl
  · simp

/-- A flag with its value does to a draft what storing the value does. -/
theorem reads_value {next : Draft} {flag : ValueFlag} {value : String}
    (hStore : d.store flag value = .ok next) : Reads (flag.words value) d next := by
  intro rest
  rw [ValueFlag.words, List.cons_append, List.cons_append, List.nil_append,
    readFrom_value hHeaders flag _ (by simp), Arg.text, hStore]
  rfl

/-- A switch, written only if it is set. -/
theorem reads_switch {switch : Switch} (set : Bool → Draft) (hOff : set false = d)
    (hOn : d.flip switch = set true) (isSet : Bool) : Reads (switch.words isSet) d (set isSet) := by
  cases isSet with
  | false =>
    rw [hOff]
    exact reads_nil d
  | true =>
    intro rest
    rw [Switch.words, if_pos rfl, List.cons_append, List.nil_append,
      readFrom_switch hHeaders switch, hOn]

/-- The flag of an option that may be given once, written only if there is a value. -/
theorem reads_optional {α : Type} {flag : ValueFlag} {value : α → String} (set : Option α → Draft)
    (hFree : set none = d) (hStore : ∀ x, d.store flag (value x) = .ok (set (some x)))
    (option : Option α) :
    Reads (option.toList.flatMap fun x => flag.words (value x)) d (set option) := by
  cases option with
  | none =>
    rw [hFree]
    exact reads_nil d
  | some x =>
    rw [Option.toList_some, List.flatMap_singleton]
    exact reads_value hHeaders (hStore x)

omit hHeaders in
/-- The flags of an option that may be given many times; each value is added to those before it. -/
theorem reads_many {α : Type} {flag : ValueFlag} {value : α → String} (set : List α → Draft)
    (hHeaders : ∀ xs, (set xs).headers = []) {xs : List α}
    (hStore : ∀ x ∈ xs, ∀ before, (set before).store flag (value x) = .ok (set (before ++ [x])))
    (before : List α) :
    Reads (xs.flatMap fun x => flag.words (value x)) (set before) (set (before ++ xs)) := by
  induction xs generalizing before with
  | nil =>
    rw [List.append_nil]
    exact reads_nil (set before)
  | cons x xs ih =>
    -- the first value joins those before it, and the other values are read after it
    obtain ⟨hHead, hTail⟩ := List.forall_mem_cons.1 hStore
    rw [List.flatMap_cons, List.append_cons before x xs]
    exact (reads_value (hHeaders before) (hHead before)).append (ih hTail (before ++ [x]))

theorem reads_kind (hFree : d.options.kind = none) (kind : Option NodeKind) :
    Reads (kind.toList.flatMap fun k => ValueFlag.kind.words k.text) d
      { d with options := { d.options with kind } } := by
  let set (kind : Option NodeKind) : Draft := { d with options := { d.options with kind } }
  refine reads_optional hHeaders set ?_ (fun k => ?_) kind
  · rw [← hFree]
  · rw [Draft.store, k.ofText_text, hFree]
    rfl

theorem reads_enumType (hFree : d.options.enumType = none) (enumType : Option String) :
    Reads (enumType.toList.flatMap fun name => ValueFlag.enumType.words name) d
      { d with options := { d.options with enumType } } := by
  let set (enumType : Option String) : Draft := { d with options := { d.options with enumType } }
  refine reads_optional hHeaders set ?_ (fun name => ?_) enumType
  · rw [← hFree]
  · rw [Draft.store, hFree]
    rfl

theorem reads_stripped (hFree : d.options.stripped = none) (stripped : Option String) :
    Reads (stripped.toList.flatMap fun start => ValueFlag.strip.words start) d
      { d with options := { d.options with stripped } } := by
  let set (stripped : Option String) : Draft := { d with options := { d.options with stripped } }
  refine reads_optional hHeaders set ?_ (fun start => ?_) stripped
  · rw [← hFree]
  · rw [Draft.store, hFree]
    rfl

theorem reads_rowFormat (hFree : d.options.rowFormat = none) (rowFormat : Option String) :
    Reads (rowFormat.toList.flatMap fun format => ValueFlag.rowFormat.words format) d
      { d with options := { d.options with rowFormat } } := by
  let set (rowFormat : Option String) : Draft := { d with options := { d.options with rowFormat } }
  refine reads_optional hHeaders set ?_ (fun format => ?_) rowFormat
  · rw [← hFree]
  · rw [Draft.store, hFree]
    rfl

theorem reads_patterns (patterns : List NamePattern) :
    Reads (patterns.flatMap fun pattern => ValueFlag.pattern.words pattern.source) d
      { d with options := { d.options with patterns := d.options.patterns ++ patterns } } := by
  let set (patterns : List NamePattern) : Draft := { d with options := { d.options with patterns } }
  refine reads_many set (fun _ => hHeaders) (fun pattern _ before => ?_) d.options.patterns
  rw [Draft.store, pattern.ofSource_source]
  rfl

theorem reads_excluded (excluded : List String) :
    Reads (excluded.flatMap fun name => ValueFlag.exclude.words name) d
      { d with options := { d.options with excluded := d.options.excluded ++ excluded } } := by
  let set (excluded : List String) : Draft := { d with options := { d.options with excluded } }
  refine reads_many set (fun _ => hHeaders) (fun name _ before => ?_) d.options.excluded
  rfl

theorem reads_defines {defines : List Define}
    (hNames : ∀ define ∈ defines, Define.isName define.1.toList = true) :
    Reads (defines.flatMap fun (name, value) => ValueFlag.define.words (name ++ "=" ++ value)) d
      { d with defines := d.defines ++ defines } := by
  let set (defines : List Define) : Draft := { d with defines }
  refine reads_many set (fun _ => hHeaders) (fun define hDefine before => ?_) d.defines
  rw [Draft.store, Define.ofText_append (hNames define hDefine)]
  rfl

/-- A property is read as a selector that takes it back from the positional arguments that are
written with it. -/
theorem reads_property (hFree : d.selector = none) {property : Option Property}
    {userArgs : List String} (hMember : userArgs ≠ [] → property ≠ some (.offset "")) :
    ∃ selector, Reads (propertyWords property userArgs).1 d { d with selector } ∧
      settle selector (propertyWords property userArgs).2 = .ok (property, userArgs) := by
  -- the slot for the property is free, so any selector that is read is stored
  have hReads {text : String} {selector : PropertySelector}
      (hText : PropertySelector.ofText text = .ok selector) :
      Reads (ValueFlag.property.words text) d { d with selector := some selector } := by
    refine reads_value hHeaders ?_
    rw [Draft.store, hText, hFree]
    rfl
  cases property with
  | none =>
    refine ⟨none, ?_, rfl⟩
    rw [← hFree]
    exact reads_nil d
  | some property =>
    cases property with
    | size => exact ⟨some .size, hReads rfl, rfl⟩
    | alignment => exact ⟨some .alignment, hReads rfl, rfl⟩
    | offset member =>
      cases userArgs with
      | nil => exact ⟨some (.offset none), hReads rfl, rfl⟩
      | cons arg rest =>
        -- the member is written after a colon, where it must have a name
        have hName : member ≠ "" := by
          rintro rfl
          exact hMember (List.cons_ne_nil arg rest) rfl
        exact ⟨some (.offset (some member)), hReads (PropertySelector.ofText_offset hName), rfl⟩

end Flags

/-! ## Headers and positional arguments -/

/-- Words that are no flags and no separators are headers. -/
theorem reads_unflagged {words : List Arg}
    (h : ∀ word ∈ words, word.isFlag = false ∧ word ≠ .separator) (d : Draft) :
    Reads words d { d with headers := d.headers ++ words.map Arg.text } := by
  induction words generalizing d with
  | nil =>
    rw [List.map_nil, List.append_nil]
    exact reads_nil d
  | cons word rest ih =>
    intro more
    obtain ⟨⟨hFlag, hSeparator⟩, hRest⟩ := List.forall_mem_cons.1 h
    rw [List.cons_append, readFrom, hFlag, Bool.not_false, if_pos rfl, ih hRest, List.append_assoc]
    · rfl
    · exact hSeparator

theorem reads_headers (headers : List String) (d : Draft) :
    Reads (headers.map .quoted) d { d with headers := d.headers ++ headers } := by
  have hUnflagged : ∀ word ∈ headers.map Arg.quoted, word.isFlag = false ∧ word ≠ .separator := by
    simp [Arg.isFlag]
  have hReads := reads_unflagged hUnflagged d
  rwa [List.map_map, show Arg.text ∘ Arg.quoted = id from rfl, List.map_id] at hReads

theorem readFrom_positionalWords {d : Draft} (hFree : d.userArgs = []) (userArgs : List String) :
    readFrom d (positionalWords userArgs) = .ok { d with userArgs } := by
  cases userArgs with
  | nil =>
    rw [positionalWords, List.isEmpty_nil, if_pos rfl, readFrom, ← hFree]
  | cons arg rest =>
    have hText : Arg.text ∘ Arg.quoted = id := rfl
    rw [positionalWords, List.isEmpty_cons, if_neg Bool.false_ne_true, readFrom, List.map_map,
      hText, List.map_id]

/-! ## All words -/

/-- The flags but for definitions, switches and property, on top of nothing. -/
theorem reads_options (o : Options) :
    Reads o.words {}
      { options :=
          { kind := o.kind, enumType := o.enumType, patterns := o.patterns, excluded := o.excluded,
            stripped := o.stripped, rowFormat := o.rowFormat } } := by
  have hKind := reads_kind (d := {}) rfl rfl o.kind
  have hEnumType := hKind.append (reads_enumType rfl rfl o.enumType)
  have hPatterns := hEnumType.append (reads_patterns rfl o.patterns)
  have hExcluded := hPatterns.append (reads_excluded rfl o.excluded)
  have hStripped := hExcluded.append (reads_stripped rfl rfl o.stripped)
  exact hStripped.append (reads_rowFormat rfl rfl o.rowFormat)

/-- The switches, on top of options of which none is switched. -/
theorem reads_switches (o : Options) (defines : List Define) :
    Reads o.switchWords
      { options :=
          { o with property := none, composite := false, quote := false, rawTokens := false,
                   largeFile := false }
        defines }
      { options := { o with property := none }, defines } := by
  let switched (composite quote rawTokens largeFile : Bool) : Draft :=
    { options := { o with property := none, composite, quote, rawTokens, largeFile }, defines }
  have hComposite : Reads (Switch.composite.words o.composite) (switched false false false false)
      (switched o.composite false false false) :=
    reads_switch rfl (switched · false false false) rfl rfl o.composite
  have hQuote : Reads (Switch.quote.words o.quote) (switched o.composite false false false)
      (switched o.composite o.quote false false) :=
    reads_switch rfl (switched o.composite · false false) rfl rfl o.quote
  have hRawTokens : Reads (Switch.rawTokens.words o.rawTokens)
      (switched o.composite o.quote false false)
      (switched o.composite o.quote o.rawTokens false) :=
    reads_switch rfl (switched o.composite o.quote · false) rfl rfl o.rawTokens
  have hLargeFile : Reads (Switch.largeFile.words o.largeFile)
      (switched o.composite o.quote o.rawTokens false)
      (switched o.composite o.quote o.rawTokens o.largeFile) :=
    reads_switch rfl (switched o.composite o.quote o.rawTokens ·) rfl rfl o.largeFile
  exact ((hComposite.append hQuote).append hRawTokens).append hLargeFile

/-- Well-formed arguments are read from their words. -/
theorem ofArgs_words {a : Arguments} (h : a.WellFormed) : ofArgs a.words = .ok a := by
  -- what all flags say but for the property, which only the end of the line settles
  let flagged : Draft := { options := { a.options with property := none }, defines := a.defines }
  have hFlags : Reads (a.options.words ++
      (a.defines.flatMap fun (name, value) => ValueFlag.define.words (name ++ "=" ++ value)) ++
      a.options.switchWords) {} flagged :=
    ((reads_options a.options).append (reads_defines rfl h.defines)).append
      (reads_switches a.options a.defines)
  obtain ⟨selector, hSelector, hSettle⟩ := reads_property (d := flagged) rfl rfl h.member
  have hHeaders := (hFlags.append hSelector).append (reads_headers a.headers _)
  let read : Draft :=
    { flagged with
      selector, headers := a.headers
      userArgs := (propertyWords a.options.property a.userArgs).2 }
  have hRead : readFrom {} a.words = .ok read := by
    rw [words]
    exact (hHeaders _).trans (readFrom_positionalWords rfl _)
  have hSettles : Settles read := ⟨h.headers, h.enumKind⟩
  have hDraft : ofDraft read = .ok a := by
    rw [ofDraft_of_settles hSettles, hSettle]
    rfl
  rw [ofArgs, hRead]
  exact hDraft

/-- The well-formed arguments are those that some words say. -/
theorem wellFormed_iff {a : Arguments} : a.WellFormed ↔ ∃ args, ofArgs args = .ok a := by
  constructor
  · intro h
    exact ⟨a.words, ofArgs_words h⟩
  · rintro ⟨args, hArgs⟩
    exact wellFormed_of_ofArgs hArgs

/-! ## Words are written as they are split -/

theorem plain_valueFlag (flag : ValueFlag) (value : String) :
    ∀ arg ∈ flag.words value, arg.Plain := by
  have hFlag : (Arg.bare flag.text).Plain := by
    cases flag <;> simp [ValueFlag.text, Arg.Plain, Arg.IsWordChar, Arg.isGap]
  exact List.forall_mem_cons.2 ⟨hFlag, List.forall_mem_singleton.2 trivial⟩

theorem plain_switch (switch : Switch) (set : Bool) : ∀ arg ∈ switch.words set, arg.Plain := by
  have hSwitch : (Arg.bare switch.text).Plain := by
    cases switch <;> simp [Switch.text, Arg.Plain, Arg.IsWordChar, Arg.isGap]
  cases set with
  | false => exact List.forall_mem_nil _
  | true => exact List.forall_mem_singleton.2 hSwitch

theorem plain_quoted (texts : List String) : ∀ arg ∈ texts.map Arg.quoted, arg.Plain := by
  intro arg hArg
  obtain ⟨text, -, rfl⟩ := List.mem_map.1 hArg
  trivial

theorem plain_values {α : Type} (flag : ValueFlag) (value : α → String) (xs : List α) :
    ∀ arg ∈ xs.flatMap fun x => flag.words (value x), arg.Plain := by
  intro arg hArg
  obtain ⟨x, -, hWord⟩ := List.mem_flatMap.1 hArg
  exact plain_valueFlag flag (value x) arg hWord

theorem plain_options (o : Options) : ∀ arg ∈ o.words, arg.Plain := by
  simp only [Options.words, List.forall_mem_append]
  exact ⟨⟨⟨⟨⟨plain_values _ _ _, plain_values _ _ _⟩, plain_values _ _ _⟩, plain_values _ _ _⟩,
    plain_values _ _ _⟩, plain_values _ _ _⟩

theorem plain_switches (o : Options) : ∀ arg ∈ o.switchWords, arg.Plain := by
  simp only [Options.switchWords, List.forall_mem_append]
  exact ⟨⟨⟨plain_switch _ _, plain_switch _ _⟩, plain_switch _ _⟩, plain_switch _ _⟩

theorem plain_property (property : Option Property) (userArgs : List String) :
    ∀ arg ∈ (propertyWords property userArgs).1, arg.Plain := by
  unfold propertyWords
  split
  · exact List.forall_mem_nil _
  · exact plain_valueFlag _ _
  · exact plain_valueFlag _ _

theorem plain_positional (userArgs : List String) : ∀ arg ∈ positionalWords userArgs, arg.Plain := by
  rw [positionalWords]
  split
  · exact List.forall_mem_nil _
  · exact List.forall_mem_cons.2 ⟨trivial, plain_quoted userArgs⟩

theorem plain_words (a : Arguments) : ∀ arg ∈ a.words, arg.Plain := by
  simp only [words, List.forall_mem_append]
  exact ⟨⟨⟨⟨⟨plain_options _, plain_values _ _ _⟩, plain_switches _⟩, plain_property _ _⟩,
    plain_quoted _⟩, plain_positional _⟩

end Arguments

/-! ## Directives -/

namespace Directive

/-- A line is read if it starts with the name of a module, unquoted and no flag, and its other words
are arguments. -/
theorem ofText_eq_ok_iff {line : String} {d : Directive} :
    ofText line = .ok d ↔
      ∃ rest, Arg.split line = .ok (.bare d.moduleName :: rest) ∧
        Text.startsWith ['-'] d.moduleName.toList = false ∧
        Arguments.ofArgs rest = .ok d.toArguments := by
  constructor
  · intro h
    obtain ⟨args, hSplit, h⟩ := ok_of_bind h
    rw [hSplit]
    split at h
    · cases h
    · next name rest =>
      split at h
      · cases h
      · next hModule =>
        obtain ⟨a, hArgs, h⟩ := ok_of_bind h
        cases h
        exact ⟨rest, rfl, Bool.not_eq_true _ ▸ hModule, hArgs⟩
    · cases h
  · rintro ⟨rest, hSplit, hModule, hArgs⟩
    rw [ofText, hSplit]
    -- the line splits into words of which the first is bare
    show (if Text.startsWith ['-'] d.moduleName.toList = true then throw _
      else Arguments.ofArgs rest >>= _) = _
    rw [hModule, hArgs]
    rfl

/-- Directives that can be found: the name of the module can stand without quotes and is no flag. -/
structure WellFormed (d : Directive) : Prop where
  plain : (Arg.bare d.moduleName).Plain
  noFlag : Text.startsWith ['-'] d.moduleName.toList = false
  arguments : d.toArguments.WellFormed

theorem wellFormed_of_ofText {line : String} {d : Directive} (h : ofText line = .ok d) :
    d.WellFormed := by
  obtain ⟨rest, hSplit, hModule, hArgs⟩ := ofText_eq_ok_iff.1 h
  -- the name was found without quotes, so it can be written without them
  have hPlain : (Arg.bare d.moduleName).Plain := Arg.plain_of_split hSplit _ List.mem_cons_self
  exact ⟨hPlain, hModule, Arguments.wellFormed_of_ofArgs hArgs⟩

/-- Well-formed directives are read from their canonical text. -/
theorem ofText_of_wellFormed {d : Directive} (h : d.WellFormed) : ofText d.canonical = .ok d := by
  have hPlain : ∀ arg ∈ Arg.bare d.moduleName :: d.toArguments.words, arg.Plain :=
    List.forall_mem_cons.2 ⟨h.plain, d.toArguments.plain_words⟩
  have hSplit : Arg.split d.canonical = .ok (Arg.bare d.moduleName :: d.toArguments.words) :=
    Arg.split_line hPlain
  exact ofText_eq_ok_iff.2 ⟨_, hSplit, h.noFlag, Arguments.ofArgs_words h.arguments⟩

/-- The well-formed directives are those that some line says. -/
theorem wellFormed_iff {d : Directive} : d.WellFormed ↔ ∃ line, ofText line = .ok d := by
  constructor
  · intro h
    exact ⟨d.canonical, ofText_of_wellFormed h⟩
  · rintro ⟨line, hLine⟩
    exact wellFormed_of_ofText hLine

/-- **Round trip.** A directive that has been read is read from its canonical text. -/
theorem ofText_canonical {line : String} {d : Directive} (h : ofText line = .ok d) :
    ofText d.canonical = .ok d := by
  -- reading leaves nothing in a directive that its canonical text could not say
  have hWellFormed : d.WellFormed := wellFormed_of_ofText h
  exact ofText_of_wellFormed hWellFormed

/-- A line with escapes in a quoted word, a definition without a value, a member beside a positional
argument, and a header and a positional argument that look like flags. -/
theorem ofText_canonical_quoted :
    let pattern : NamePattern := (NamePattern.ofSource? "dirent").get (by decide +kernel)
    let line := "property -D N -A\t-p dirent -x \"a\\\"b\\\\\"  -a offset:d_name \"-h\" d.h -- -C"
    let d : Directive :=
      { moduleName := "property"
        options :=
          { patterns := [pattern]
            excluded := ["a\"b\\"]
            property := some (.offset "d_name")
            largeFile := true }
        defines := [("N", "1")]
        headers := ["-h", "d.h"]
        userArgs := ["-C"] }
    ofText line = .ok d ∧
      d.canonical =
        "property -p \"dirent\" -x \"a\\\"b\\\\\" -D \"N=1\" -A -a \"offset:d_name\" \"-h\" \"d.h\"" ++
          " -- \"-C\"" ∧
      ofText d.canonical = .ok d := by
  intro pattern line d
  have hRead : ofText line = .ok d := by decide +kernel
  have hCanonical :
      d.canonical =
        "property -p \"dirent\" -x \"a\\\"b\\\\\" -D \"N=1\" -A -a \"offset:d_name\" \"-h\" \"d.h\"" ++
          " -- \"-C\"" := by
    decide +kernel
  exact ⟨hRead, hCanonical, ofText_canonical hRead⟩

end Directive

end HeaderFacts

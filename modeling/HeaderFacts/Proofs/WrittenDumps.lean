import HeaderFacts.Dump.Load
import HeaderFacts.Proofs.KeyMaps
import Mathlib.Data.List.Basic

/-!
# Written dumps are read back

A dump is written with its absent and empty parts left out, and read with defaults for what is not
there. The two fit together: whatever is left out is what its default stands for, and no part that
is there is written as null. So the value that a dump is written as denotes that dump.

Main definitions:

* `partUnless` — a part of a record that is left out if it is empty.

Main results:

* `Json.record?_obj` — a record is read part by part.
* `Decl.ofJson?_toJson`, `Dump.ofJson?_toJson` — declarations and dumps are read back.
* `Dump.load_written` — a file with a written dump is that dump.
-/

namespace HeaderFacts

/-! ## Parts of records -/

namespace Json

theorem valuesOf_append (key : String) (l r : List (String × Json)) :
    valuesOf key (l ++ r) = valuesOf key l ++ valuesOf key r := by
  simp [valuesOf]

theorem valuesOf_cons (key k : String) (v : Json) (l : List (String × Json)) :
    valuesOf key ((k, v) :: l) = if k = key then v :: valuesOf key l else valuesOf key l := by
  by_cases h : k = key <;> simp [valuesOf, h]

theorem valuesOf_nil (key : String) : valuesOf key [] = [] := rfl

/-- A record is read part by part. -/
theorem record?_obj {keys : List String} {members : List (String × Json)}
    {parts : List (Option Json)}
    (h : List.Forall₂ (fun key part => valuesOf key members = part.toList) keys parts) :
    (obj members).record? keys = some parts := by
  rw [record?]
  induction h with
  | nil => rfl
  | @cons key part _ _ hPart _ ih =>
    rw [List.mapM_cons, ih, hPart]
    cases part <;> rfl

end Json

/-- A part of a record that is left out if it is empty. -/
def partUnless (isEmpty : Bool) (value : Json) : Option Json :=
  if isEmpty then none else some value

/-- What an optional part is written as. -/
theorem valuesOf_memberOf {α : Type} (key k : String) (write : α → Json) (o : Option α) :
    Json.valuesOf key (memberOf k write o) = if k = key then (o.map write).toList else [] := by
  cases o with
  | none => simp [memberOf, Json.valuesOf]
  | some x => simp [memberOf, Json.valuesOf_cons, Json.valuesOf_nil]

/-- What a part that may be empty is written as. -/
theorem valuesOf_memberUnless (key k : String) (isEmpty : Bool) (value : Json) :
    Json.valuesOf key (memberUnless isEmpty k value) =
      if k = key then (partUnless isEmpty value).toList else [] := by
  cases isEmpty <;> simp [memberUnless, partUnless, Json.valuesOf_cons, Json.valuesOf_nil]

/-! ## Reading what is written -/

section Parts

variable {α : Type} {read : Json → Option α} {write : α → Json}

theorem mapM_read {β : Type} {read : β → Option α} {write : α → β}
    (h : ∀ x, read (write x) = some x) (l : List α) : (l.map write).mapM read = some l := by
  induction l with
  | nil => rfl
  | cons x rest ih =>
    rw [List.map_cons, List.mapM_cons, h, ih]
    rfl

/-- An optional part is read back, unless its value is written as null. -/
theorem orDefault_asOption (h : ∀ x, read (write x) = some x) (hNull : ∀ x, write x ≠ .null)
    (o : Option α) : orDefault none (Json.asOption? read) (o.map write) = some o := by
  cases o with
  | none => rfl
  | some x =>
    have hOption : Json.asOption? read (write x) = (read (write x)).map some :=
      Json.asOption?.eq_2 read (write x) (hNull x)
    rw [Option.map_some, orDefault, hOption, h, Option.map_some]

/-- A list that is left out if it is empty is read back. -/
theorem orDefault_asList (h : ∀ x, read (write x) = some x) (l : List α) :
    orDefault [] (Json.asList? read) (partUnless l.isEmpty (.arr (l.map write))) = some l := by
  cases l with
  | nil => rfl
  | cons x rest => exact mapM_read h (x :: rest)

/-- A map is read back. -/
theorem mapOfJson?_obj (h : ∀ x, read (write x) = some x) (m : KeyMap α) :
    mapOfJson? read (.obj (m.entries.map fun e => (e.1, write e.2))) = some m := by
  let readEntry (e : String × Json) : Option (String × α) := (read e.2).map (e.1, ·)
  have hEntry (e : String × α) : readEntry (e.1, write e.2) = some e := by
    simp [readEntry, h]
  have hEntries : (m.entries.map fun e => (e.1, write e.2)).mapM readEntry = some m.entries :=
    mapM_read hEntry m.entries
  calc mapOfJson? read (.obj (m.entries.map fun e => (e.1, write e.2)))
      = ((m.entries.map fun e => (e.1, write e.2)).mapM readEntry).map KeyMap.ofList := rfl
    _ = some m := by rw [hEntries, Option.map_some, m.ofList_entries]

/-- A map that is left out if it is empty is read back. -/
theorem orDefault_mapOfJson (h : ∀ x, read (write x) = some x) (m : KeyMap α) :
    orDefault .empty (mapOfJson? read) (partUnless m.isEmpty
      (.obj (m.entries.map fun e => (e.1, write e.2)))) = some m := by
  cases hEmpty : m.isEmpty with
  | true =>
    have hNone : m.entries = [] := List.isEmpty_iff.1 hEmpty
    exact congrArg some (KeyMap.ext_entries hNone.symm)
  | false => exact mapOfJson?_obj h m

end Parts

theorem wordToJson_read (w : Int64) : (wordToJson w).asInt64? = some w :=
  wordOf?_eq_some_iff.2 rfl

theorem NodeKind.ofJson?_text (kind : NodeKind) : NodeKind.ofJson? (.str kind.text) = some kind :=
  ofText?_eq_some_iff.2 rfl

theorem Field.ofJson?_toJson (f : Field) : Field.ofJson? f.toJson = some f := by
  have hRecord : f.toJson.record? ["name", "offset"] =
      some [some (.str f.name), some (wordToJson f.offset)] := by
    apply Json.record?_obj
    simp [Json.valuesOf_cons, Json.valuesOf_nil]
  rw [Field.ofJson?, hRecord]
  simp only [Option.bind_eq_bind, Option.bind_some, wordToJson_read]
  rfl

theorem Layout.ofJson?_toJson (l : Layout) : Layout.ofJson? l.toJson = some l := by
  have hRecord : l.toJson.record? ["size", "align", "fields"] =
      some [some (wordToJson l.size), some (wordToJson l.align),
        partUnless l.fields.isEmpty (.arr (l.fields.map Field.toJson))] := by
    apply Json.record?_obj
    simp [Json.valuesOf_cons, valuesOf_memberUnless]
  rw [Layout.ofJson?, hRecord]
  simp only [Option.bind_eq_bind, Option.bind_some, wordToJson_read,
    orDefault_asList Field.ofJson?_toJson]
  rfl

/-- A declaration is read back from what it is written as. -/
theorem Decl.ofJson?_toJson (d : Decl) : Decl.ofJson? d.toJson = some d := by
  have hRecord : d.toJson.record? ["kind", "name", "definition", "enum_name", "value", "layout",
      "tokens", "when"] =
      some [some (.str d.kind.text), some (.str d.name), some (.bool d.definition),
        d.enumName.map Json.str, d.value.map wordToJson, d.layout.map Layout.toJson,
        partUnless d.tokens.isEmpty (.arr (d.tokens.map Json.str)),
        partUnless d.when.isEmpty
          (.obj (d.when.entries.map fun e => (e.1, .str e.2)))] := by
    apply Json.record?_obj
    simp [Json.valuesOf_append, Json.valuesOf_cons, valuesOf_memberOf, valuesOf_memberUnless]
  have hString (s : String) : (Json.str s).asString? = some s := rfl
  have hEnumName := orDefault_asOption hString (by simp) d.enumName
  have hValue := orDefault_asOption wordToJson_read (by simp [wordToJson]) d.value
  have hLayout := orDefault_asOption Layout.ofJson?_toJson (by simp [Layout.toJson]) d.layout
  have hTokens := orDefault_asList hString d.tokens
  have hWhen := orDefault_mapOfJson hString d.when
  rw [Decl.ofJson?, hRecord]
  simp only [Option.bind_eq_bind, Option.bind_some, NodeKind.ofJson?_text, hString, hEnumName,
    hValue, hLayout, hTokens, hWhen]
  rfl

/-- A dump is read back from what it is written as. -/
theorem Dump.ofJson?_toJson (d : Dump) : Dump.ofJson? d.toJson = some d := by
  have hDecls (decls : List Decl) : Json.asList? Decl.ofJson? (.arr (decls.map Decl.toJson)) =
      some decls :=
    mapM_read Decl.ofJson?_toJson decls
  have hRecord : d.toJson.record? ["target", "headers"] =
      some [some (.str d.target), some (.obj (d.headers.entries.map fun e =>
        (e.1, .arr (e.2.map Decl.toJson))))] := by
    apply Json.record?_obj
    simp [Json.valuesOf_cons, Json.valuesOf_nil]
  rw [Dump.ofJson?, hRecord]
  simp only [Option.bind_eq_bind, Option.bind_some, orDefault, mapOfJson?_obj hDecls]
  rfl

/-- The bytes of a text are read as that text. -/
theorem textOf_toUTF8 (text : String) : textOf (.ok text.toUTF8) = .ok text := by
  have hText : String.fromUTF8? text.toUTF8 = some text := dif_pos text.isValidUTF8
  simp only [textOf, hText, bind, Except.bind]
  rfl

/-- **Written dumps.** The value that a dump is written as denotes that dump, and a file whose text
reads as this value is loaded as that dump, unless its name says that it is YAML. -/
theorem Dump.load_written (d : Dump) :
    Dump.ofJson? d.toJson = some d ∧
      ∀ path text, isYamlName path = false → Json.ofText? text = some d.toJson →
        Dump.load path (.ok text.toUTF8) = .ok d := by
  have hDump : Dump.ofJson? d.toJson = some d := d.ofJson?_toJson
  refine ⟨hDump, ?_⟩
  intro path text hPath hRead
  have hParse : Dump.parse false text = .ok d := by
    simp only [Dump.parse, Dump.ofText?, Bool.false_eq_true, if_false, hRead, Option.bind_some, hDump]
  simp only [Dump.load, textOf_toUTF8, hPath, hParse]
  rfl

set_option maxRecDepth 2000 in
/-- A definition of which every other part is absent and a declaration that has them all, in a file as
a compact writer leaves it. -/
theorem Dump.load_written_compact :
    let bare : Decl := { kind := .varDecl, name := "v" }
    let full : Decl :=
      { kind := .enumDecl, name := "c", definition := false, enumName := some "e", value := some (-1)
        layout := some { size := 8, align := 4, fields := [{ name := "f", offset := 2 }] }
        tokens := ["c"], when := KeyMap.ofList [("B", "1")] }
    let d : Dump := { target := "x", headers := KeyMap.ofList [("t", [bare, full])] }
    let start := "\x7b\"target\":\"x\",\"headers\":\x7b\"t\":["
    let bareText := "\x7b\"kind\":\"VarDecl\",\"name\":\"v\",\"definition\":true\x7d,"
    let fullText := "\x7b\"kind\":\"EnumDecl\",\"name\":\"c\",\"definition\":false,"
    let layoutText := "\"enum_name\":\"e\",\"value\":-1,\"layout\":\x7b\"size\":8,\"align\":4,"
    let rest := "\"fields\":[\x7b\"name\":\"f\",\"offset\":2\x7d]\x7d,\"tokens\":[\"c\"],"
    let final := "\"when\":\x7b\"B\":\"1\"\x7d\x7d]\x7d\x7d"
    let text := start ++ (bareText ++ (fullText ++ (layoutText ++ (rest ++ final))))
    Dump.ofJson? d.toJson = some d ∧ isYamlName "v.json" = false ∧
      Json.ofText? text = some d.toJson ∧ Dump.load "v.json" (.ok text.toUTF8) = .ok d := by
  intro bare full d start bareText fullText layoutText rest final text
  obtain ⟨hDump, hLoad⟩ := load_written d
  have hPath : isYamlName "v.json" = false := by decide
  have hRead : Json.ofText? text = some d.toJson := by
    -- the characters are those of the literals; decoding their bytes would take long
    have hChars : text.toList = start.toList ++ (bareText.toList ++ (fullText.toList ++
        (layoutText.toList ++ (rest.toList ++ final.toList)))) := by
      simp only [text, String.toList_append]
    have hStart : start.toList = _ := String.toList_ofList
    have hBare : bareText.toList = _ := String.toList_ofList
    have hFull : fullText.toList = _ := String.toList_ofList
    have hLayout : layoutText.toList = _ := String.toList_ofList
    have hRest : rest.toList = _ := String.toList_ofList
    have hFinal : final.toList = _ := String.toList_ofList
    rw [Json.ofText?, hChars, hStart, hBare, hFull, hLayout, hRest, hFinal]
    decide +kernel
  exact ⟨hDump, hPath, hRead, hLoad _ _ hPath hRead⟩

end HeaderFacts

import Mathlib.Data.List.Basic
import HeaderFacts.Proofs.Evaluation

/-!
# Definitions and visibility

A declaration is visible where every macro that it needs has the value that it needs, and the value
of a macro is that of its last definition. So a definition of a new macro reveals declarations and
hides none, and definitions of different macros may change places. The large-file definitions of
`-A` stand behind those of the directive: they overrule them where both define a macro, and reveal
only where they do not.

Main definitions:

* `LastDefined` — the value that the last definition of a macro gives it.
* `OrderedAlike` — definitions that differ only in how those of different macros are mixed.
* `Request.KeptBy` — a request whose macros all have the same values in another.
* `Directive.withLargeFile` — a directive with `-A`.

Main results:

* `OrderedAlike.perm` — such definitions are the same up to their order.
* `Request.define?_eq_some_iff` — the value of a macro is that of its last definition.
* `Request.shows_iff` — what makes a declaration visible.
* `Directive.define?_request` — the value of a macro under a directive.
* `Catalog.openSession_of_keptBy` — a session shows at least what it showed for fewer macros.
* `Catalog.openSession_reveals` — what more definitions, others in another order and `-A` can do.
-/

namespace HeaderFacts

/-! ## The last definition -/

/-- The last definition of a macro gives it a value. -/
def LastDefined (defines : List Define) (name value : String) : Prop :=
  ∃ before after, defines = before ++ (name, value) :: after ∧ ∀ later ∈ after, later.1 ≠ name

/-- Two lists hold the same definitions of each macro, in the same order. So one is a reordering of
the other that moves definitions of different macros only. -/
def OrderedAlike (defines others : List Define) : Prop :=
  ∀ name, defines.filter (·.1 = name) = others.filter (·.1 = name)

/-- No macro is defined in both of two lists. -/
def DefinesApart (defines others : List Define) : Prop :=
  ∀ own ∈ defines, ∀ other ∈ others, own.1 ≠ other.1

section

variable {defines others : List Define} {name value : String}

theorem LastDefined.mem (h : LastDefined defines name value) : (name, value) ∈ defines := by
  obtain ⟨before, after, rfl, -⟩ := h
  simp

/-- Definitions that are ordered alike are the same up to their order. -/
theorem OrderedAlike.perm (h : OrderedAlike defines others) : defines.Perm others := by
  rw [List.perm_iff_count]
  intro e
  -- a definition occurs as often among those of its own macro
  have hOwn (ds : List Define) : (ds.filter (·.1 = e.1)).count e = ds.count e :=
    List.count_filter (by simp)
  rw [← hOwn defines, ← hOwn others, h e.1]

end

namespace Request

variable {r r' : Request} {name value : String} {headers : List String}
variable {defines others : List Define}

/-- The value of a macro is that of its last definition. -/
theorem define?_eq_some_iff : r.define? name = some value ↔ LastDefined r.defines name value := by
  constructor
  · intro h
    obtain ⟨⟨found, _⟩, hFind, rfl⟩ := Option.map_eq_some_iff.1 h
    obtain ⟨before, after, hDefines, hName, hAfter⟩ := find?_reverse_eq_some_iff.1 hFind
    obtain rfl : found = name := by simpa using hName
    exact ⟨before, after, hDefines, fun later hLater => of_decide_eq_false (hAfter later hLater)⟩
  · rintro ⟨before, after, hDefines, hAfter⟩
    have hFind : r.defines.reverse.find? (·.1 = name) = some (name, value) :=
      find?_reverse_eq_some_iff.2 ⟨before, after, hDefines, by simp, by simpa using hAfter⟩
    rw [define?, hFind]
    rfl

/-- A macro has no value if and only if nothing defines it. -/
theorem define?_eq_none_iff : r.define? name = none ↔ ∀ e ∈ r.defines, e.1 ≠ name := by
  simp [define?]

/-- Later definitions come first. -/
theorem define?_append (headers : List String) (defines others : List Define) (name : String) :
    (⟨headers, defines ++ others⟩ : Request).define? name =
      ((⟨headers, others⟩ : Request).define? name).or
        ((⟨headers, defines⟩ : Request).define? name) := by
  simp only [define?, List.reverse_append, List.find?_append, Option.map_or]

/-- The value of a macro depends on its own definitions only. -/
theorem define?_of_orderedAlike (h : OrderedAlike defines others) (name : String) :
    (⟨headers, defines⟩ : Request).define? name = (⟨headers, others⟩ : Request).define? name := by
  -- the first one from the end is the last one of the macro
  have hLast (ds : List Define) :
      ds.reverse.find? (·.1 = name) = (ds.filter (·.1 = name)).reverse.head? := by
    rw [← List.filter_reverse, List.head?_filter]
  rw [define?, define?, hLast, hLast, h name]

/-! ## Visible declarations -/

/-- A declaration is visible if and only if the last definition of every macro that it needs gives
that macro the value that it needs. -/
theorem shows_iff {d : Decl} :
    r.shows d = true ↔ ∀ needed ∈ d.when.entries, LastDefined r.defines needed.1 needed.2 := by
  simp only [shows, List.all_eq_true, beq_iff_eq, define?_eq_some_iff]

/-- Every macro that has a value in a request has the same value in another. -/
def KeptBy (r r' : Request) : Prop :=
  ∀ name value, r.define? name = some value → r'.define? name = some value

/-- More macros hide no declaration. -/
theorem KeptBy.shows (h : r.KeptBy r') {d : Decl} (hShows : r.shows d = true) :
    r'.shows d = true := by
  rw [shows_iff] at *
  intro needed hNeeded
  have hValue := define?_eq_some_iff.2 (hShows needed hNeeded)
  exact define?_eq_some_iff.1 (h _ _ hValue)

/-- Definitions that differ only in how those of different macros are mixed show the same. -/
theorem shows_of_orderedAlike (h : OrderedAlike defines others) :
    (⟨headers, defines⟩ : Request).shows = (⟨headers, others⟩ : Request).shows := by
  funext d
  simp only [shows, define?_of_orderedAlike h]

/-- Definitions of other macros change no value that a macro has. -/
theorem keptBy_append (h : DefinesApart defines others) :
    (⟨headers, defines⟩ : Request).KeptBy ⟨headers, defines ++ others⟩ := by
  intro name value hValue
  have hOwn : (name, value) ∈ defines := (define?_eq_some_iff.1 hValue).mem
  have hOthers : (⟨headers, others⟩ : Request).define? name = none :=
    define?_eq_none_iff.2 fun other hOther => (h _ hOwn other hOther).symm
  rw [define?_append, hOthers, Option.none_or, hValue]

end Request

/-! ## Directives -/

/-- A directive with `-A`. -/
def Directive.withLargeFile (d : Directive) : Directive :=
  { d with options := { d.options with largeFile := true } }

/-- Under a directive with `-A`, a macro has the value of its last large-file definition, and that
of its last own definition where there is none. Without `-A` only its own definitions count. -/
theorem Directive.define?_request (d : Directive) (largeFile : List Define) (name value : String) :
    (d.request largeFile).define? name = some value ↔
      if d.options.largeFile then
        LastDefined largeFile name value ∨
          (∀ e ∈ largeFile, e.1 ≠ name) ∧ LastDefined d.defines name value
      else LastDefined d.defines name value := by
  rw [request]
  split
  · rw [Request.define?_append, Option.or_eq_some_iff, Request.define?_eq_none_iff]
    simp only [Request.define?_eq_some_iff]
  · exact Request.define?_eq_some_iff

/-- Where a directive defines no large-file macro itself, `-A` changes the value of none of its
macros. -/
theorem Directive.request_keptBy {d : Directive} {largeFile : List Define}
    (h : DefinesApart d.defines largeFile) :
    (d.request largeFile).KeptBy (d.withLargeFile.request largeFile) := by
  have hWith : d.withLargeFile.request largeFile = ⟨d.headers, d.defines ++ largeFile⟩ := rfl
  rw [hWith, request]
  split
  · -- a directive that has `-A` already
    exact fun _ _ hValue => hValue
  · exact Request.keptBy_append h

/-! ## Sessions -/

namespace Catalog

variable {c : Catalog} {headers : List String}

/-- A session shows at least what the session of a request with fewer macros shows. -/
theorem openSession_of_keptBy {r r' : Request} {s : Session} (hOpen : c.openSession r = .ok s)
    (hKept : r.KeptBy r') (hHeaders : r'.headers = r.headers) :
    ∃ t, c.openSession r' = .ok t ∧ s.target = t.target ∧ s.decls.Sublist t.decls := by
  have hResolved := c.resolved_of_openSession hOpen
  rw [c.openSession_of_resolved hResolved] at hOpen
  cases hOpen
  refine ⟨_, c.openSession_of_resolved (hHeaders ▸ hResolved), rfl, ?_⟩
  rw [hHeaders]
  exact List.monotone_filter_right _ fun d => hKept.shows

/-- For headers that can be found, definitions only reveal. A session shows a declaration where the
last definition of every macro that it needs gives that macro the value that it needs. More
definitions show at least what fewer show, in the same order, unless they define a macro again.
Definitions of different macros may change places. Under `-A` the last large-file definition of a
macro counts, or else the last one of the directive, so a directive that defines no large-file macro
sees with `-A` at least what it sees without. -/
theorem openSession_reveals (c : Catalog) {headers : List String}
    (hResolved : ∀ header ∈ headers, (c.resolve? header).isSome) (defines : List Define) :
    ∃ s, c.openSession ⟨headers, defines⟩ = .ok s ∧
      (∀ d, d ∈ s.decls ↔ d ∈ c.declarations headers ∧
        ∀ needed ∈ d.when.entries, LastDefined defines needed.1 needed.2) ∧
      (∀ added, DefinesApart defines added →
        ∃ t, c.openSession ⟨headers, defines ++ added⟩ = .ok t ∧ s.target = t.target ∧
          s.decls.Sublist t.decls) ∧
      (∀ reordered, OrderedAlike defines reordered →
        c.openSession ⟨headers, reordered⟩ = .ok s) ∧
      (∀ (d : Directive) largeFile name value,
        (d.request largeFile).define? name = some value ↔
          if d.options.largeFile then
            LastDefined largeFile name value ∨
              (∀ e ∈ largeFile, e.1 ≠ name) ∧ LastDefined d.defines name value
          else LastDefined d.defines name value) ∧
      ∀ (d : Directive) largeFile, d.headers = headers → DefinesApart d.defines largeFile →
        ∃ without large, c.openSession (d.request largeFile) = .ok without ∧
          c.openSession (d.withLargeFile.request largeFile) = .ok large ∧
          without.target = large.target ∧ without.decls.Sublist large.decls := by
  have hOpen (ds : List Define) := c.openSession_of_resolved (r := ⟨headers, ds⟩) hResolved
  refine ⟨_, hOpen defines, ?visible, ?added, ?reordered, Directive.define?_request, ?largeFile⟩
  case visible =>
    intro d
    rw [List.mem_filter, Request.shows_iff]
  case added =>
    intro added hApart
    exact openSession_of_keptBy (hOpen defines) (Request.keptBy_append hApart) rfl
  case reordered =>
    intro reordered hAlike
    rw [hOpen, Request.shows_of_orderedAlike hAlike]
  case largeFile =>
    rintro d largeFile rfl hApart
    have hWithout := c.openSession_of_resolved (r := d.request largeFile) hResolved
    have hKept := Directive.request_keptBy hApart
    obtain ⟨large, hLarge, hShown⟩ := openSession_of_keptBy hWithout hKept rfl
    exact ⟨_, large, hWithout, hLarge, hShown⟩

/-- A typedef that is there only with large files, and a header under an include directory. -/
theorem openSession_reveals_largeFile :
    let pid : Decl := Decl.typedef "pid_t"
    let off : Decl :=
      { kind := .typedefDecl, name := "off_t", when := .ofList [("_FILE_OFFSET_BITS", "64")] }
    let c : Catalog :=
      { dump := ({ target := "x86_64-unknown-linux-gnu" } : Dump).addHeader "inc/t.h" [off, pid]
        includePaths := ["inc"] }
    (∀ header ∈ ["t.h"], (c.resolve? header).isSome) ∧
      ∃ s t, c.openSession ⟨["t.h"], [("_GNU_SOURCE", "1")]⟩ = .ok s ∧
        c.openSession ⟨["t.h"], [("_GNU_SOURCE", "1"), ("_FILE_OFFSET_BITS", "64")]⟩ = .ok t ∧
        s.decls.Sublist t.decls ∧ s.decls = [pid] ∧ t.decls = [off, pid] := by
  intro pid off c
  have hResolved : ∀ header ∈ ["t.h"], (c.resolve? header).isSome := by decide +kernel
  have hFew : c.openSession ⟨["t.h"], [("_GNU_SOURCE", "1")]⟩ = .ok ⟨c.dump.target, [pid]⟩ := by
    decide +kernel
  have hMore : c.openSession ⟨["t.h"], [("_GNU_SOURCE", "1"), ("_FILE_OFFSET_BITS", "64")]⟩ =
      .ok ⟨c.dump.target, [off, pid]⟩ := by
    decide +kernel
  obtain ⟨s, hOpen, -, hAdded, -⟩ := c.openSession_reveals hResolved [("_GNU_SOURCE", "1")]
  obtain ⟨t, hOpenMore, -, hShown⟩ :=
    hAdded [("_FILE_OFFSET_BITS", "64")] (by simp [DefinesApart])
  obtain rfl : s = ⟨c.dump.target, [pid]⟩ := Except.ok.inj (hOpen.symm.trans hFew)
  obtain rfl : t = ⟨c.dump.target, [off, pid]⟩ := Except.ok.inj (hOpenMore.symm.trans hMore)
  exact ⟨hResolved, _, _, hOpen, hOpenMore, hShown, rfl, rfl⟩

end Catalog

end HeaderFacts

import Mathlib.Data.List.Basic
import HeaderFacts.Proofs.Evaluation

/-!
# Opened sessions

A request names headers, and a session holds declarations. In between, each header is looked up in
the dump: under its own path, or else under the first include directory that has it. A header that
is found nowhere fails the request, and the first one names the failure. What the others are found
at is taken once, where it is first mentioned, and the session walks over the visible declarations
there. So another spelling of a header adds nothing, and neither do more include directories.

Main definitions:

* `Catalog.FoundAt` — where a header is found.
* `Catalog.including` — a catalog with more include directories.
* `Catalog.FirstMentions` — the paths that headers are found at, each where it is mentioned first.
* `Catalog.visibleAt` — the declarations that a request sees at a path.
* `Catalog.FirstMissing` — the first header that is found nowhere.

Main results:

* `Catalog.resolve?_eq_some_iff` — the lookup finds a header where it is found.
* `Catalog.firstMentions_eraseDups` — duplicates leave a path where it is mentioned first.
* `Catalog.openSession_eq` — what a request comes down to.
* `Catalog.openSession_of_mentions` — when a request fails, and what a session walks over.
-/

namespace HeaderFacts

namespace Catalog

variable {c : Catalog} {header path : String} {headers : List String}

/-! ## Where a header is found -/

/-- Where a header is found in a catalog: at its own path, or else, if it is relative, at its path
in the first include directory in which there is one. -/
inductive FoundAt (c : Catalog) (header : String) : String → Prop
  | own (hKey : c.dump.headers.contains header = true) : FoundAt c header header
  | joined {before dir after} (hOwn : c.dump.headers.contains header = false)
      (hRelative : isAbsolute header = false) (hDirs : c.includePaths = before ++ dir :: after)
      (hBefore : ∀ other ∈ before, c.dump.headers.contains (joinPath other header) = false)
      (hKey : c.dump.headers.contains (joinPath dir header) = true) :
      FoundAt c header (joinPath dir header)

/-- The lookup finds a header where it is found. -/
theorem resolve?_eq_some_iff : c.resolve? header = some path ↔ c.FoundAt header path := by
  rw [resolve?]
  constructor
  · intro h
    split at h
    · next hKey =>
      cases h
      exact .own hKey
    split at h
    · cases h
    · next hOwn hRelative =>
      -- the first path that is there comes from the first directory that has the header
      rw [List.find?_map] at h
      obtain ⟨dir, hDir, rfl⟩ := Option.map_eq_some_iff.1 h
      obtain ⟨hKey, before, after, hDirs, hBefore⟩ := List.find?_eq_some_iff_append.1 hDir
      exact .joined (by simpa using hOwn) (by simpa using hRelative) hDirs
        (fun other hOther => by simpa using hBefore other hOther) hKey
  · intro h
    cases h with
    | own hKey => rw [if_pos hKey]
    | @joined before dir after hOwn hRelative hDirs hBefore hKey =>
      have hFirst :
          c.includePaths.find? (c.dump.headers.contains ∘ (joinPath · header)) = some dir :=
        List.find?_eq_some_iff_append.2
          ⟨hKey, before, after, hDirs, fun other hOther => by simp [hBefore other hOther]⟩
      rw [hOwn, hRelative, List.find?_map, hFirst]
      rfl

theorem resolve?_eq_none_iff : c.resolve? header = none ↔ ∀ path, ¬ c.FoundAt header path := by
  rw [Option.eq_none_iff_forall_ne_some]
  exact forall_congr' fun path => not_congr resolve?_eq_some_iff

theorem resolve?_isSome_iff : (c.resolve? header).isSome ↔ ∃ path, c.FoundAt header path := by
  rw [Option.isSome_iff_exists]
  exact exists_congr fun path => resolve?_eq_some_iff

/-- A catalog with more include directories behind the others. -/
def including (c : Catalog) (more : List String) : Catalog :=
  { c with includePaths := c.includePaths ++ more }

/-- More include directories change nothing for a header that is found without them. -/
theorem FoundAt.including (h : c.FoundAt header path) (more : List String) :
    (c.including more).FoundAt header path := by
  cases h with
  | own hKey => exact .own hKey
  | @joined before dir after hOwn hRelative hDirs hBefore hKey =>
    have hAll : (c.including more).includePaths = before ++ dir :: (after ++ more) := by
      rw [Catalog.including, hDirs, List.append_assoc, List.cons_append]
    exact .joined hOwn hRelative hAll hBefore hKey

/-! ## First mentions -/

/-- Some headers mention a path if one of them is found there. -/
def Mentions (c : Catalog) (headers : List String) (path : String) : Prop :=
  ∃ header ∈ headers, c.FoundAt header path

/-- The paths that headers are found at, in the order in which they are mentioned first: for two of
them, the headers up to some place mention the earlier one and not yet the later one. -/
structure FirstMentions (c : Catalog) (headers paths : List String) : Prop where
  mem_iff : ∀ path, path ∈ paths ↔ c.Mentions headers path
  in_order : paths.Pairwise fun earlier later =>
    ∃ front, front <+: headers ∧ c.Mentions front earlier ∧ ¬ c.Mentions front later

/-- No path is mentioned first twice. -/
theorem FirstMentions.nodup {paths : List String} (h : c.FirstMentions headers paths) :
    paths.Nodup := by
  refine h.in_order.imp ?_
  rintro path _ ⟨front, -, hMentioned, hNot⟩ rfl
  exact hNot hMentioned

theorem mentions_iff : c.Mentions headers path ↔ path ∈ headers.filterMap c.resolve? := by
  rw [List.mem_filterMap]
  exact exists_congr fun header => and_congr_right' resolve?_eq_some_iff.symm

/-- Without its duplicates a list holds its members in the order in which they occur first. -/
theorem pairwise_eraseDups (l : List String) :
    l.eraseDups.Pairwise fun a b => ∃ front, front <+: l ∧ a ∈ front ∧ b ∉ front := by
  match l with
  | [] => simp
  | x :: rest =>
    have hRest := pairwise_eraseDups (rest.filter fun y => !y == x)
    rw [List.eraseDups_cons, List.pairwise_cons]
    constructor
    · -- nothing but `x` occurs as early as `x`
      intro b hb
      rw [List.mem_eraseDups, List.mem_filter] at hb
      exact ⟨[x], by simp, by simp, by simpa using hb.2⟩
    · refine hRest.imp_of_mem ?_
      rintro a b - hb ⟨front, hFront, ha, hNot⟩
      -- what stands before the first `b` in the rest without `x` stands there with `x` too
      obtain ⟨kept, hKept, rfl⟩ := List.prefix_filter_iff.1 hFront
      rw [List.mem_eraseDups, List.mem_filter] at hb
      refine ⟨x :: kept, List.cons_prefix_cons.2 ⟨rfl, hKept⟩,
        List.mem_cons_of_mem _ (List.mem_of_mem_filter ha), ?_⟩
      rw [List.mem_cons, not_or]
      refine ⟨by simpa using hb.2, fun hMem => hNot (List.mem_filter.2 ⟨hMem, hb.2⟩)⟩
  termination_by l.length
  decreasing_by exact Nat.lt_succ_of_le (List.length_filter_le _ _)

/-- What headers are found at, without duplicates, is what they mention first. -/
theorem firstMentions_eraseDups (c : Catalog) (headers : List String) :
    c.FirstMentions headers (headers.filterMap c.resolve?).eraseDups where
  mem_iff path := by rw [List.mem_eraseDups, mentions_iff]
  in_order := by
    refine (pairwise_eraseDups _).imp ?_
    rintro a b ⟨found, hFound, ha, hb⟩
    -- the paths up to some place are those of the headers up to some place
    obtain ⟨front, hFront, rfl⟩ := List.prefix_filterMap_iff.1 hFound
    exact ⟨front, hFront, mentions_iff.2 ha, mt mentions_iff.1 hb⟩

/-- Something that a list holds already adds nothing behind it. -/
theorem eraseDups_append_cons {x : String} {front : List String} (h : x ∈ front)
    (back : List String) : (front ++ x :: back).eraseDups = (front ++ back).eraseDups := by
  rw [List.eraseDups_append, List.eraseDups_append, List.cons_removeAll, if_neg (by simpa using h)]

/-! ## Opening -/

/-- The declarations at a path that a request sees, in the order of the dump. -/
def visibleAt (c : Catalog) (r : Request) (path : String) : List Decl :=
  ((c.dump.headers.get? path).getD []).filter r.shows

/-- A request comes down to the first of its headers that is found nowhere, and without one to what
its headers mention. -/
theorem openSession_eq (c : Catalog) (r : Request) :
    c.openSession r =
      match r.headers.find? fun header => (c.resolve? header).isNone with
      | some missing => .error (.headerNotFound missing)
      | none =>
        .ok ⟨c.dump.target,
          (r.headers.filterMap c.resolve?).eraseDups.flatMap (c.visibleAt r)⟩ := by
  cases hMissing : r.headers.find? fun header => (c.resolve? header).isNone with
  | some missing => exact c.openSession_of_missing hMissing
  | none =>
    have hResolved : ∀ header ∈ r.headers, (c.resolve? header).isSome := by
      simpa [Option.isSome_iff_ne_none] using hMissing
    rw [c.openSession_of_resolved hResolved, declarations, List.filter_flatMap]
    rfl

/-- The first of some headers that is found nowhere. -/
def FirstMissing (c : Catalog) (headers : List String) (header : String) : Prop :=
  (∀ path, ¬ c.FoundAt header path) ∧
    ∃ front back, headers = front ++ header :: back ∧
      ∀ earlier ∈ front, ∃ path, c.FoundAt earlier path

theorem firstMissing_iff :
    c.FirstMissing headers header ↔
      headers.find? (fun header => (c.resolve? header).isNone) = some header := by
  simp [List.find?_eq_some_iff_append, FirstMissing, resolve?_eq_none_iff, resolve?_isSome_iff]

/-- A request fails with the first header that is found nowhere, and with nothing else. -/
theorem openSession_eq_error_iff {r : Request} {err : QueryError} :
    c.openSession r = .error err ↔
      ∃ header, c.FirstMissing r.headers header ∧ err = .headerNotFound header := by
  simp only [openSession_eq, firstMissing_iff]
  cases r.headers.find? fun header => (c.resolve? header).isNone with
  | some missing => simp [eq_comm]
  | none => simp

/-- A request fails if and only if one of its headers is found nowhere. -/
theorem openSession_fails_iff {r : Request} :
    (∃ err, c.openSession r = .error err) ↔
      ∃ header ∈ r.headers, ∀ path, ¬ c.FoundAt header path := by
  have hSome : (∃ err, c.openSession r = .error err) ↔
      (r.headers.find? fun header => (c.resolve? header).isNone).isSome := by
    rw [openSession_eq]
    cases r.headers.find? fun header => (c.resolve? header).isNone with
    | some missing => simp
    | none => simp
  rw [hSome, List.find?_isSome]
  simp only [Option.isNone_iff_eq_none, resolve?_eq_none_iff]

/-- A session holds what is visible at each path, where the path is mentioned first. -/
theorem eq_of_openSession {r : Request} {s : Session} (h : c.openSession r = .ok s) :
    s = ⟨c.dump.target, (r.headers.filterMap c.resolve?).eraseDups.flatMap (c.visibleAt r)⟩ := by
  rw [openSession_eq] at h
  split at h
  · cases h
  · exact (Except.ok.inj h).symm

/-- A header that is looked up to the same end as an earlier one changes nothing. -/
theorem openSession_again {front back : List String} {earlier : String} (hEarlier : earlier ∈ front)
    (hSame : c.resolve? earlier = c.resolve? header) (defines : List Define) :
    c.openSession ⟨front ++ header :: back, defines⟩ = c.openSession ⟨front ++ back, defines⟩ := by
  have hMissing : (front ++ header :: back).find? (fun header => (c.resolve? header).isNone) =
      (front ++ back).find? fun header => (c.resolve? header).isNone := by
    rw [List.find?_append, List.find?_append, List.find?_cons]
    cases hFront : front.find? fun header => (c.resolve? header).isNone with
    | some missing => rfl
    | none =>
      -- the earlier one has been found, and so has this one
      have hFound := List.find?_eq_none.1 hFront earlier hEarlier
      rw [hSame, Bool.not_eq_true] at hFound
      rw [hFound]
  have hPaths : ((front ++ header :: back).filterMap c.resolve?).eraseDups =
      ((front ++ back).filterMap c.resolve?).eraseDups := by
    rw [List.filterMap_append, List.filterMap_append, List.filterMap_cons]
    cases hHeader : c.resolve? header with
    | none => rfl
    | some path =>
      have hMem : path ∈ front.filterMap c.resolve? :=
        List.mem_filterMap.2 ⟨earlier, hEarlier, hSame.trans hHeader⟩
      exact eraseDups_append_cons hMem _
  rw [openSession_eq, openSession_eq, hMissing, hPaths]
  rfl

/-- More include directories change no session that opens without them. -/
theorem openSession_including {r : Request} {s : Session} (h : c.openSession r = .ok s)
    (more : List String) : (c.including more).openSession r = .ok s := by
  have hResolved := c.resolved_of_openSession h
  have hSame : ∀ header ∈ r.headers, (c.including more).resolve? header = c.resolve? header := by
    intro header hHeader
    obtain ⟨path, hPath⟩ := resolve?_isSome_iff.1 (hResolved header hHeader)
    rw [resolve?_eq_some_iff.2 hPath, resolve?_eq_some_iff.2 (hPath.including more)]
  have hResolvedMore : ∀ header ∈ r.headers, ((c.including more).resolve? header).isSome := by
    intro header hHeader
    rw [hSame header hHeader]
    exact hResolved header hHeader
  rw [c.openSession_of_resolved hResolved] at h
  rw [openSession_of_resolved _ hResolvedMore, declarations, List.filterMap_congr hSame]
  exact h

end Catalog

/-! ## Walking -/

/-- A visitor that never has enough looks at every declaration, one after the other. -/
theorem Session.visit_of_more {m : Type → Type} [Monad m] [LawfulMonad m] (s : Session)
    (look : Decl → m Unit) :
    s.visit none (fun d => do look d; return .more) = s.decls.forM look := by
  have hAll (decls : List Decl) :
      visitAll (fun d => do look d; return .more) decls = decls.forM look := by
    induction decls with
    | nil => rfl
    | cons d rest ih =>
      rw [visitAll, bind_assoc]
      simp only [pure_bind, ih]
      rfl
  -- without a kind no declaration is left out
  have hKind : s.ofKind none = s.decls := List.filter_eq_self.2 fun d _ => rfl
  rw [visit, hKind, hAll]

/-- A request fails if and only if one of its headers is found nowhere, under its own path and in
every include directory, and the first such header names the failure. Otherwise its session walks
over the paths that its headers are found at, each where it is mentioned first, and over all that is
visible there. So it makes no difference to mention a path again under any of its spellings, and
include directories behind the others make none to a session that opens without them. -/
theorem Catalog.openSession_of_mentions (c : Catalog) (r : Request) :
    (∀ header path, c.resolve? header = some path ↔ c.FoundAt header path) ∧
    ((∃ err, c.openSession r = .error err) ↔
      ∃ header ∈ r.headers, ∀ path, ¬ c.FoundAt header path) ∧
    (∀ err, c.openSession r = .error err ↔
      ∃ header, c.FirstMissing r.headers header ∧ err = .headerNotFound header) ∧
    (∀ s, c.openSession r = .ok s →
      ∃ paths, c.FirstMentions r.headers paths ∧ paths.Nodup ∧
        s = ⟨c.dump.target, paths.flatMap (c.visibleAt r)⟩ ∧
        ∀ (m : Type → Type) [Monad m] [LawfulMonad m] (look : Decl → m Unit),
          s.visit none (fun d => do look d; return .more) =
            (paths.flatMap (c.visibleAt r)).forM look) ∧
    (∀ front header back, r.headers = front ++ back →
      (∃ earlier ∈ front, ∀ path, c.FoundAt earlier path ↔ c.FoundAt header path) →
      c.openSession { r with headers := front ++ header :: back } = c.openSession r) ∧
    ∀ more s, c.openSession r = .ok s → (c.including more).openSession r = .ok s := by
  refine ⟨fun _ _ => resolve?_eq_some_iff, openSession_fails_iff, fun _ => openSession_eq_error_iff,
    ?walk, ?again, fun more s h => openSession_including h more⟩
  case walk =>
    intro s h
    have hPaths := c.firstMentions_eraseDups r.headers
    refine ⟨_, hPaths, hPaths.nodup, eq_of_openSession h, fun m _ _ look => ?_⟩
    rw [s.visit_of_more look, eq_of_openSession h]
  case again =>
    rintro front header back hHeaders ⟨earlier, hEarlier, hSame⟩
    have hLookup : c.resolve? earlier = c.resolve? header := by
      apply Option.ext
      intro path
      rw [resolve?_eq_some_iff, resolve?_eq_some_iff, hSame]
    rw [openSession_again hEarlier hLookup, ← hHeaders]

/-- Three mentions of one path, under two spellings. -/
example :
    let decls : List Decl := [Decl.struct "pid_s", Decl.struct "pid_t"]
    let c : Catalog :=
      { dump := ({ target := "x86_64-unknown-linux-gnu" } : Dump).addHeader "inc/t.h" decls
        includePaths := ["usr", "inc"] }
    c.openSession ⟨["t.h", "inc/t.h", "t.h"], []⟩ = .ok ⟨c.dump.target, decls⟩ := by
  decide +kernel

end HeaderFacts

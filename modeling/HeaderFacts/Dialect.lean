import HeaderFacts.Error

/-!
# Dialects

A quantity may exist under two dialects of a C library: as a legacy fact and as its large-file
variant. Which of the two is there, and how they compare, tells the dialect and with it the value
to use.

Main definitions:

* `Candidates` — the two facts, either of which may be absent.
* `DialectRule` — what candidates a dialect has and which one it picks.
* `DialectSelector` — rules, of which the first that matches counts.
* `DialectSelector.resolve` — the dialect and value of some candidates.
-/

namespace HeaderFacts

/-- What a rule requires of a candidate. -/
inductive Presence where
  | present
  | absent
  deriving DecidableEq, Repr

/-- Which candidate a rule picks. -/
inductive Pick where
  | legacy
  | largeFile
  deriving DecidableEq, Repr

/-- The legacy fact and its large-file variant. -/
structure Candidates where
  legacy : Option Nat := none
  largeFile : Option Nat := none
  deriving DecidableEq, Repr

/-- What candidates a dialect has. -/
structure DialectRule where
  name : String
  legacy : Presence
  largeFile : Presence
  /-- Both candidates must be there, the legacy one not the greater. -/
  ordered : Bool
  pick : Pick
  deriving DecidableEq, Repr

/-- A dialect and the value it calls for. -/
structure Resolution where
  dialect : String
  value : Nat
  deriving DecidableEq, Repr

/-- Whether a candidate is as required. -/
def Presence.admits : Presence → Option Nat → Bool
  | present, value => value.isSome
  | absent, value => value.isNone

/-- The candidate that is picked. -/
def Candidates.pick (c : Candidates) : Pick → Option Nat
  | .legacy => c.legacy
  | .largeFile => c.largeFile

/-- Whether both candidates are there and the legacy one is not the greater. -/
def Candidates.inOrder (c : Candidates) : Bool :=
  match c.legacy, c.largeFile with
  | some legacy, some largeFile => legacy ≤ largeFile
  | _, _ => false

/-- Whether a rule matches candidates. -/
def DialectRule.matchesCandidates (r : DialectRule) (c : Candidates) : Bool :=
  r.legacy.admits c.legacy && r.largeFile.admits c.largeFile && (!r.ordered || c.inOrder)

/-- Rules, of which the first that matches counts. -/
structure DialectSelector where
  rules : List DialectRule
  deriving DecidableEq, Repr

namespace DialectSelector

/-- Libraries in the style of glibc, which has both facts, and of musl, which has the legacy one. -/
def standard : DialectSelector :=
  ⟨[⟨"gnu", .present, .present, true, .largeFile⟩, ⟨"musl", .present, .absent, false, .legacy⟩]⟩

/-- The dialect and value of some candidates. -/
def resolve (s : DialectSelector) (c : Candidates) : Except ExtractionError Resolution :=
  let unrecognized := .error (.unrecognizedDialect c.legacy c.largeFile)
  match s.rules.find? (·.matchesCandidates c) with
  | none => unrecognized
  | some rule =>
    match c.pick rule.pick with
    | none => unrecognized
    | some value => .ok ⟨rule.name, value⟩

end DialectSelector

end HeaderFacts

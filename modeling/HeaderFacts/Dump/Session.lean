import HeaderFacts.Dump.Request

/-!
# Sessions

The declarations that one request sees, in the order in which they are visited.

Main definitions:

* `Session` — a target and declarations.
* `Service` — what opens sessions.
* `Session.ofKind` — the declarations of a kind.
* `Session.visit` — hands declarations to a visitor that may stop.
-/

namespace HeaderFacts

/-- The declarations that one request sees. -/
structure Session where
  /-- The triple of the platform that the headers were parsed for. -/
  target : String
  decls : List Decl
  deriving DecidableEq, Repr

/-- What answers requests with sessions. -/
abbrev Service := Request → Except QueryError Session

/-- Whether a visitor wants more declarations. -/
inductive Visit where
  | more
  | enough
  deriving DecidableEq, Repr

namespace Session

/-- The declarations of a kind, or all of them. -/
def ofKind (s : Session) (kind? : Option NodeKind) : List Decl :=
  s.decls.filter fun d => kind?.all (d.kind == ·)

/-- Hands declarations to a visitor until it has enough of them or fails. -/
def visitAll {m : Type → Type} [Monad m] (visitor : Decl → m Visit) : List Decl → m Unit
  | [] => pure ()
  | d :: rest => do
    match ← visitor d with
    | .more => visitAll visitor rest
    | .enough => pure ()

/-- Hands the declarations of a kind to a visitor. -/
def visit {m : Type → Type} [Monad m] (s : Session) (kind? : Option NodeKind)
    (visitor : Decl → m Visit) : m Unit :=
  visitAll visitor (s.ofKind kind?)

end Session

end HeaderFacts

import HeaderFacts.Error
import HeaderFacts.Text.Search

/-!
# Platform fingerprints

A platform as a pair of an operating system and an architecture, under names that do not depend on
where they come from. Facts that were taken on one platform hold on that platform alone, so the
only check is equality.

Main definitions:

* `Fingerprint` — an operating system and an architecture.
* `Fingerprint.ofTriple` — the platform of a target triple.
* `Fingerprint.ofHost` — the platform that a running program reports.
* `Fingerprint.text`, `Fingerprint.ofText?` — the `os-arch` form, written and read.
* `Fingerprint.check` — whether a written fingerprint is that of a platform.
-/

namespace HeaderFacts

/-- A platform. -/
structure Fingerprint where
  os : String
  arch : String
  deriving DecidableEq, Repr

/-- A fingerprint that is not the one of the running platform. -/
structure PlatformMismatch where
  expected : String
  actual : String
  deriving DecidableEq, Repr

/-- The wording of a mismatch. -/
def PlatformMismatch.message (m : PlatformMismatch) : String :=
  s!"platform mismatch: artifact generated for '{m.expected}', running on '{m.actual}'"

/-! ## Names of systems and architectures -/

/-- A component of a triple without the version at its end. -/
def dropVersion (component : List Char) : List Char :=
  (component.reverse.dropWhile fun c => c.isDigit || c == '.').reverse

/-- The operating system that a component of a triple names. -/
def normalizeOs? (component : List Char) : Option String :=
  match String.ofList (dropVersion component) with
  | "linux" => some "linux"
  | "darwin" => some "macos"
  | "macos" => some "macos"
  | "macosx" => some "macos"
  | "ios" => some "ios"
  | "windows" => some "windows"
  | "win32" => some "windows"
  | "mingw" => some "windows"
  | "android" => some "android"
  | "freebsd" => some "freebsd"
  | "netbsd" => some "netbsd"
  | "openbsd" => some "openbsd"
  | "dragonfly" => some "dragonfly"
  | "solaris" => some "solaris"
  | "illumos" => some "illumos"
  | _ => none

/-- The common name of an architecture; one that has no other name keeps its own. -/
def normalizeArch (arch : String) : String :=
  match arch with
  | "x86_64" => "x64"
  | "amd64" => "x64"
  | "i386" => "x86"
  | "i486" => "x86"
  | "i586" => "x86"
  | "i686" => "x86"
  | "x86" => "x86"
  | "aarch64" => "arm64"
  | "arm64" => "arm64"
  | "powerpc64le" => "ppc64le"
  | "ppc64le" => "ppc64le"
  | "powerpc64" => "ppc64"
  | "ppc64" => "ppc64"
  | "powerpc" => "ppc"
  | "ppc" => "ppc"
  | _ =>
    if Text.startsWith ['a', 'r', 'm'] arch.toList ||
        Text.startsWith ['t', 'h', 'u', 'm', 'b'] arch.toList then "arm"
    else arch

/-! ## Fingerprints -/

namespace Fingerprint

/-- The written form of a fingerprint. -/
def text (f : Fingerprint) : String :=
  f.os ++ "-" ++ f.arch

/-- The platform of a target triple. Its first component is the architecture; an Android component
among the others decides, and otherwise the first one that names an operating system. -/
def ofTriple (triple : String) : Except QueryError Fingerprint :=
  let unknown := .error (.property "platform fingerprint" triple)
  match Text.splitAt '-' triple.toList with
  | [] => unknown
  | arch :: components =>
    if arch.isEmpty then unknown
    else
      let os? :=
        if components.any (Text.startsWith ['a', 'n', 'd', 'r', 'o', 'i', 'd']) then some "android"
        else components.findSome? normalizeOs?
      match os? with
      | none => unknown
      | some os => .ok ⟨os, normalizeArch (String.ofList arch)⟩

/-- The platform that a running program reports by the names of its system and architecture. -/
def ofHost (os arch : String) : Fingerprint :=
  ⟨(normalizeOs? os.toList).getD os, normalizeArch arch⟩

/-- Reads the written form. -/
def ofText? (text : String) : Option Fingerprint :=
  match Text.cut? '-' text.toList with
  | none => none
  | some (os, arch) =>
    if os.isEmpty || arch.isEmpty then none else some ⟨String.ofList os, String.ofList arch⟩

/-- Whether a written fingerprint is that of the running platform. -/
def check (expected : String) (running : Fingerprint) : Except PlatformMismatch Unit :=
  if ofText? expected = some running then .ok ()
  else .error ⟨expected, running.text⟩

end Fingerprint

end HeaderFacts

import HeaderFacts.File.System
import HeaderFacts.KeyMap
import HeaderFacts.Text.Search

/-!
# Files in memory

A tree of files without links. A path is walked component by component, from the root or from the
working directory, and each component but the last has to be a directory: one that leads on to a
file, the working directory or one on the way to it, or that of the devices.

Main definitions:

* `FileTree` — files by the paths that lead to them, and a working directory.
* `FileTree.resolve` — the place at the end of a path.
* `FileTree.disk` — a tree as a file system.

Main results:

* `FileTree.isDirectory_insert` — a file that is written makes no directory of its place.
* `FileTree.resolve_insert` — a path leads to where it led before a file was written.
-/

namespace HeaderFacts

/-- Files in memory, by the components of their paths from the root, joined. -/
structure FileTree where
  files : KeyMap ByteArray := .empty
  /-- The components of the path to the working directory. -/
  workingDirectory : List String := []

/-- The components of a path; an empty one stands between two slashes. -/
def componentsOf (path : String) : List String :=
  (Text.splitAt '/' path.toList).map String.ofList

/-- The components of a path up to the last that is not empty. -/
def trimmedComponentsOf (path : String) : List String :=
  ((componentsOf path).reverse.dropWhile (· == "")).reverse

/-- The key of a place. -/
def pathOf (place : List String) : String :=
  String.intercalate "/" place

/-- Where a path starts: at the root or in the working directory. -/
def originOf (workingDirectory : List String) (path : String) : List String :=
  if path.toList.head? == some '/' then [] else workingDirectory

/-- Whether a path can lead to directories alone, since nothing follows its last slash. -/
def endsInSlash (path : String) : Bool :=
  path.toList.getLast? == some '/'

/-- The places of devices. -/
inductive Device where
  | null
  | stdout
  | stderr
  deriving DecidableEq, Repr

namespace Device

/-- The device at a place. -/
def at? (place : List String) : Option Device :=
  match place with
  | ["dev", "null"] => some null
  | ["dev", "stdout"] => some stdout
  | ["dev", "stderr"] => some stderr
  | _ => none

/-- Where a text goes that is written to a device. -/
def destination {σ File : Type} : Device → Destination σ File
  | null => .nowhere
  | stdout => .stdout
  | stderr => .stderr

end Device

namespace FileTree

/-- Where a component leads from a directory. -/
def follow (place : List String) (component : String) : List String :=
  if component == "" || component == "." then place
  else if component == ".." then place.dropLast
  else place ++ [component]

/-- The working directory of a tree of some files. -/
def home : List String := ["home"]

/-- The tree of some files in its working directory; of two under one path the later counts. -/
def ofList (files : List (String × ByteArray)) : FileTree where
  files := KeyMap.ofList <| files.map fun (path, bytes) =>
    (pathOf ((componentsOf path).foldl follow (originOf home path)), bytes)
  workingDirectory := home

/-! ## Places -/

/-- Whether there is a directory at a place. -/
def isDirectory (t : FileTree) (place : List String) : Bool :=
  place.isEmpty || place.isPrefixOf t.workingDirectory || place == ["dev"] ||
    t.files.keys.any (Text.startsWith ((pathOf place).toList ++ ['/']) ·.toList)

/-- Whether there is a file at a place. -/
def isFile (t : FileTree) (place : List String) : Bool :=
  !t.isDirectory place && (Device.at? place).isNone && t.files.contains (pathOf place)

/-- Where components lead from a place. All that is gone through has to be a directory. -/
def walk (t : FileTree) (place : List String) : List String → Except FileFault (List String)
  | [] => .ok place
  | component :: rest =>
    if t.isDirectory place then t.walk (follow place component) rest
    else if t.isFile place then .error .notDirectory
    else .error .missing

/-- The place at the end of a path. There need not be anything. -/
def resolve (t : FileTree) (path : String) : Except FileFault (List String) :=
  if path.isEmpty then .error .missing
  else t.walk (originOf t.workingDirectory path) (componentsOf path)

/-! ## Reading and writing -/

/-- The content of a file. A device has none to give. -/
def read (t : FileTree) (path : String) : FileContent := do
  let place ← t.resolve path
  if t.isDirectory place then throw .directory
  else if (Device.at? place).isSome then return .empty
  else
    match t.files.get? (pathOf place) with
    | some bytes => return bytes
    | none => throw .missing

/-- The key of the file that a path leads to. -/
def file? (t : FileTree) (path : String) : Option String :=
  match t.resolve path with
  | .ok place => if t.isFile place then some (pathOf place) else none
  | .error _ => none

/-- The tree with a file at a place. -/
def insert (t : FileTree) (place : List String) (bytes : ByteArray) : FileTree :=
  { t with files := t.files.insert (pathOf place) bytes }

/-- The place that a path opens for writing. -/
def openPlace (t : FileTree) (path : String) : Except FileFault (List String) := do
  if endsInSlash path then
    -- no file comes of this, whether there is one or not, but the way to it has to be there
    let _ ← t.walk (originOf t.workingDirectory path) (trimmedComponentsOf path)
    throw .directory
  else
    let place ← t.resolve path
    if t.isDirectory place then throw .directory else return place

/-- Where a text goes that is written to a path. -/
def write (t : FileTree) (path text : String) :
    Except FileFault (Destination FileTree String) := do
  let place ← t.openPlace path
  match Device.at? place with
  | some device => return device.destination
  | none => return .file (pathOf place) (t.insert place text.toUTF8)

/-! ## Written files -/

variable {t u : FileTree} {path text key : String} {place place' : List String}

/-- A file that is written leaves directories directories. -/
theorem isDirectory_insert_of (bytes : ByteArray) (h : t.isDirectory place' = true) :
    (t.insert place bytes).isDirectory place' = true := by
  unfold isDirectory at h ⊢
  rw [Bool.or_eq_true, List.any_eq_true] at h ⊢
  refine h.imp_right fun ⟨k, hk, hStarts⟩ => ⟨k, ?_, hStarts⟩
  exact KeyMap.mem_keys_insert_of_mem hk

/-- A file that is written makes no directory of its place. -/
theorem isDirectory_insert (bytes : ByteArray) (h : t.isDirectory place = false) :
    (t.insert place bytes).isDirectory place = false := by
  unfold isDirectory at h ⊢
  rw [Bool.or_eq_false_iff, List.any_eq_false] at h ⊢
  refine h.imp_right fun hKeys k hk => ?_
  rcases KeyMap.mem_keys_insert hk with rfl | hOld
  · -- the path itself does not go on behind a slash
    rw [Text.startsWith_iff]
    intro hPrefix
    have hLength := hPrefix.length_le
    rw [List.length_append] at hLength
    exact absurd hLength (Nat.not_succ_le_self _)
  · exact hKeys k hOld

theorem walk_insert (bytes : ByteArray) {start : List String} {components : List String}
    (h : t.walk start components = .ok place') :
    (t.insert place bytes).walk start components = .ok place' := by
  -- what has been gone through is still a directory; the place itself may have become a file
  induction components generalizing start with
  | nil => exact h
  | cons component rest ih =>
    rw [walk] at h ⊢
    split at h
    · next hDirectory =>
      rw [if_pos (isDirectory_insert_of bytes hDirectory)]
      exact ih h
    · split at h <;> cases h

/-- A path leads to where it led before a file was written. -/
theorem resolve_insert (bytes : ByteArray) (h : t.resolve path = .ok place') :
    (t.insert place bytes).resolve path = .ok place' := by
  unfold resolve at h ⊢
  split at h
  · cases h
  · next hPath =>
    rw [if_neg hPath]
    exact walk_insert bytes h

/-- A place is opened for writing at the end of a path, where no directory is. -/
theorem of_openPlace (h : t.openPlace path = .ok place) :
    t.resolve path = .ok place ∧ t.isDirectory place = false := by
  unfold openPlace at h
  split at h
  · cases hWalk : t.walk (originOf t.workingDirectory path) (trimmedComponentsOf path) with
    | error fault => rw [hWalk] at h; cases h
    | ok way => rw [hWalk] at h; cases h
  · cases hResolve : t.resolve path with
    | error fault => rw [hResolve] at h; cases h
    | ok place' =>
      rw [hResolve] at h
      change (if t.isDirectory place' = true then _ else _) = _ at h
      split at h
      · cases h
      · next hFile =>
        cases h
        exact ⟨rfl, Bool.eq_false_iff.2 hFile⟩

/-- A file is written where a path leads to neither a directory nor a device. -/
theorem of_write (h : t.write path text = .ok (.file key u)) :
    ∃ place, t.resolve path = .ok place ∧ t.isDirectory place = false ∧
      Device.at? place = none ∧ key = pathOf place ∧ u = t.insert place text.toUTF8 := by
  unfold write at h
  cases hOpen : t.openPlace path with
  | error fault => rw [hOpen] at h; cases h
  | ok place =>
    obtain ⟨hResolve, hFile⟩ := of_openPlace hOpen
    rw [hOpen] at h
    refine ⟨place, hResolve, hFile, ?_⟩
    change (match Device.at? place with | some device => _ | none => _) = _ at h
    cases hDevice : Device.at? place with
    | some device => rw [hDevice] at h; cases device <;> cases h
    | none =>
      rw [hDevice] at h
      cases h
      exact ⟨rfl, rfl, rfl⟩

theorem file?_of_write (h : t.write path text = .ok (.file key u)) : u.file? path = some key := by
  obtain ⟨place, hResolve, hFile, hDevice, rfl, rfl⟩ := of_write h
  have hThere : (t.insert place text.toUTF8).files.contains (pathOf place) = true := by
    rw [KeyMap.contains, insert, KeyMap.get?_insert, if_pos rfl]
    rfl
  have hIsFile : (t.insert place text.toUTF8).isFile place = true := by
    rw [isFile, isDirectory_insert _ hFile, hDevice, hThere]
    rfl
  rw [file?, resolve_insert _ hResolve]
  exact if_pos hIsFile

/-- A tree as a file system. -/
def disk : FileSystem FileTree where
  File := String
  file? := file?
  bytes? t key := t.files.get? key
  read := read
  write := write
  file?_of_write := file?_of_write
  bytes?_of_write h := by
    obtain ⟨place, -, -, -, rfl, rfl⟩ := of_write h
    rw [insert, KeyMap.get?_insert, if_pos rfl]
  bytes?_of_write_of_ne h hOther := by
    obtain ⟨place, -, -, -, rfl, rfl⟩ := of_write h
    rw [insert, KeyMap.get?_insert, if_neg hOther.symm]

end FileTree

end HeaderFacts

-- The files around a program, in the current folder and in folders that are
-- known. Folders above the current one exist, and their files are not known.
import Chip8.File.Path
import Chip8.Refusal
namespace Chip8

/-- Where something lies: the names on the way from the current folder, with
two dots for each folder above, or from the root. -/
abbrev FilePlace := List String

/-- The folders and the files that are known. -/
structure Disk where
  folders : List FilePlace
  files : List (FilePlace × List UInt8)

namespace Disk

/-- Nothing is in the current folder. -/
def empty : Disk := ⟨[], []⟩

/-- The contents of the file at a place. -/
def bytesAt? (d : Disk) (place : FilePlace) : Option (List UInt8) := d.files.lookup place

/-- The disk with contents at a place. -/
def put (d : Disk) (place : FilePlace) (bytes : List UInt8) : Disk :=
  { d with files := (place, bytes) :: d.files }

theorem bytesAt?_put_self (d : Disk) (place : FilePlace) (bytes : List UInt8) :
    (d.put place bytes).bytesAt? place = some bytes := by
  simp [bytesAt?, put]

theorem bytesAt?_put_ne (d : Disk) {place other : FilePlace} (bytes : List UInt8)
    (h : other ≠ place) : (d.put place bytes).bytesAt? other = d.bytesAt? other := by
  have : (other == place) = false := by simpa using h
  simp [bytesAt?, put, List.lookup_cons, this]

/-! ## Ways -/

/-- The first name on the way from the root. -/
def rootName : String := "/"

/-- Where a path starts. -/
def start (p : Path) : FilePlace := if p.root = "" then [] else [rootName]

/-- Whether a place is a folder: the current one, one above it, the root, or
one that is known. -/
def isFolder (d : Disk) (place : FilePlace) : Bool :=
  place.all (· = "..") || place == [rootName] || d.folders.contains place

/-- The folder above a folder. The root is above itself. -/
def above (place : FilePlace) : FilePlace :=
  match place.getLast? with
  | none | some ".." => place ++ [".."]
  | some name => if name = rootName then place else place.dropLast

/-- The place of a name in a folder. -/
def enter (place : FilePlace) (name : String) : FilePlace :=
  if name = "." then place else if name = ".." then above place else place ++ [name]

/-- The most bytes that a name may have. -/
def nameLimit : Nat := 255

/-- The most bytes that a path may have. -/
def pathLimit : Nat := 4095

/-- The place that names lead to from a folder. All but the last one have to
name folders. -/
def walk (d : Disk) (place : FilePlace) : List String → Except FileProblem FilePlace
  | [] => .ok place
  | name :: rest =>
    let next := enter place name
    if nameLimit < name.utf8ByteSize then .error .nameTooLong
    else if rest.isEmpty || d.isFolder next then walk d next rest
    else if (d.bytesAt? next).isSome then .error .notFolder
    else .error .missing

/-- The place that a path leads to. -/
def place (d : Disk) (p : Path) : Except FileProblem FilePlace :=
  d.walk (start p) p.names

/-- The contents of the file that a path leads to. -/
def contents (d : Disk) (p : Path) : Except FileProblem (List UInt8) := do
  let place ← d.place p
  if d.isFolder place then .error .isFolder
  else match d.bytesAt? place with
    | none => .error .missing
    | some bytes => if p.slashEnd then .error .notFolder else .ok bytes

/-- The place that a path leads to, if a file can be written there. -/
def target (d : Disk) (p : Path) : Except FileProblem FilePlace := do
  let place ← d.place p
  if d.isFolder place || p.slashEnd then .error .isFolder else .ok place

/-! ## Files by the text of their path -/

/-- What was found on a path, unless its text is no path at all. -/
def found {α : Type} (path : String) (answer : Except FileProblem α) : Except Refusal α :=
  if path.contains (Char.ofNat 0) then .error .zeroInPath
  else if path = "" then .error (.file .missing path)
  else if pathLimit < path.utf8ByteSize then .error (.file .nameTooLong path)
  else answer.mapError fun p => .file p path

/-- Reads a file. -/
def read (d : Disk) (path : String) : Except Refusal (List UInt8) :=
  found path (d.contents (.ofText path))

/-- Reads a file whose path is made a full one first. -/
def readFrom (d : Disk) (folder path : String) : Except Refusal (List UInt8) :=
  let p := (Path.ofText path).tidy
  found (p.text folder) (d.contents p)

/-- Where a file can be written. -/
def writable (d : Disk) (path : String) : Except Refusal FilePlace :=
  found path (d.target (.ofText path))

/-- Where a file can be written whose path is made a full one first. -/
def writableFrom (d : Disk) (folder path : String) : Except Refusal FilePlace :=
  let p := (Path.ofText path).tidy
  found (p.text folder) (d.target p)

/-- Writes a file. -/
def write (d : Disk) (path : String) (bytes : List UInt8) : Except Refusal Disk :=
  (d.writable path).map fun place => d.put place bytes

end Disk

end Chip8

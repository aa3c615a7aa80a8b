import Tron.Project.Path
import Tron.Table
import Tron.Text.Quoted

/-! # File trees

Directories and files by their place below the top directory, and the ways in
which they can be changed. A path is followed name by name: everything it goes
through has to be a directory that is there, `..` leads up, and above the top is
the top itself.
-/

namespace Tron

/-- What stands at a place in a file tree. -/
inductive FileEntry where
  | directory
  | file (contents : String)
  deriving Repr, DecidableEq

/-- A place in a file tree: the names that lead to it from the top. -/
abbrev Place := List String

/-- What is known of each place. The top itself is a directory and not listed. -/
structure FileTree where
  entries : Table Place FileEntry := ∅

/-- Why a change to a file tree is refused. -/
inductive FileRefusal where
  | missing
  | exists
  | notDirectory
  | isDirectory
  | nameTooLong
  deriving Repr, DecidableEq

namespace FileRefusal

/-- The system's number for a refusal. -/
def number : FileRefusal → Nat
  | .missing => 2
  | .exists => 17
  | .notDirectory => 20
  | .isDirectory => 21
  | .nameTooLong => 36

/-- The system's words for a refusal. -/
def description : FileRefusal → String
  | .missing => "No such file or directory"
  | .exists => "File exists"
  | .notDirectory => "Not a directory"
  | .isDirectory => "Is a directory"
  | .nameTooLong => "File name too long"

end FileRefusal

/-- A refusal and the path it is about. -/
structure FileFault where
  refusal : FileRefusal
  path : Path
  deriving Repr, DecidableEq

/-- What is said of a fault. -/
def FileFault.message (f : FileFault) : String :=
  s!"[Errno {f.refusal.number}] {f.refusal.description}: " ++ quote f.path.text

namespace FileTree

instance : EmptyCollection FileTree := ⟨{}⟩

instance : Inhabited FileTree := ⟨∅⟩

/-- The most bytes a name may have. -/
def maxNameBytes : Nat := 255

/-- The most bytes a path may have. -/
def maxPathBytes : Nat := 4095

/-- What stands at a place, if anything does. -/
def entry? (t : FileTree) : Place → Option FileEntry
  | [] => some .directory
  | place => t.entries.get? place

/-- Put an entry at a place. -/
def put (t : FileTree) (place : Place) (entry : FileEntry) : FileTree where
  entries := t.entries.insert place entry

/-- Follow names from a place. The last name may lead to a place where nothing
    stands. -/
def follow (t : FileTree) (place : Place) : List String → Except FileRefusal Place
  | [] => .ok place
  | name :: names =>
    match t.entry? place with
    | none => .error .missing
    | some (.file _) => .error .notDirectory
    | some .directory =>
      if name = ".." then t.follow place.dropLast names
      else if name.utf8ByteSize > maxNameBytes then .error .nameTooLong
      else t.follow (place ++ [name]) names

/-- The place that a path leads to from the working directory. -/
def locate (t : FileTree) (working : Place) (p : Path) : Except FileRefusal Place :=
  if p.text.utf8ByteSize > maxPathBytes then .error .nameTooLong
  else t.follow (if p.anchor = .here then working else []) p.names

/-- Whether a path leads to a directory. -/
def isDirectory (t : FileTree) (working : Place) (p : Path) : Bool :=
  match t.locate working p with
  | .ok place => t.entry? place == some .directory
  | .error _ => false

/-- Make one directory, where nothing stands yet. -/
def makeDirectory (t : FileTree) (working : Place) (p : Path) :
    Except FileRefusal FileTree := do
  let place ← t.locate working p
  match t.entry? place with
  | some _ => .error .exists
  | none => .ok (t.put place .directory)

/-- Write a file, over an earlier one if there is one. -/
def writeFile (t : FileTree) (working : Place) (p : Path) (contents : String) :
    Except FileRefusal FileTree := do
  let place ← t.locate working p
  match t.entry? place with
  | some .directory => .error .isDirectory
  | _ => .ok (t.put place (.file contents))

/-- The entries below the top, sorted by their paths. -/
def listing (t : FileTree) : List (String × FileEntry) :=
  (t.entries.entries.map fun e => ("/".intercalate e.1, e.2)).mergeSort
    fun e f => decide (e.1 ≤ f.1)

/-- Make sure that a path leads to a directory. The directory is tried first, and
    the one above it is made only where that is found to be missing. What was made
    before a fault stays. -/
def ensureDirectory (working : Place) (t : FileTree) (p : Path) :
    FileTree × Option FileFault :=
  match t.makeDirectory working p with
  | .ok made => (made, none)
  | .error .missing =>
    if p.names = [] then (t, some ⟨.missing, p⟩)
    else
      match ensureDirectory working t p.parent with
      | (above, some fault) => (above, some fault)
      | (above, none) =>
        match above.makeDirectory working p with
        | .ok made => (made, none)
        | .error refusal =>
          if refusal ≠ .missing ∧ above.isDirectory working p then (above, none)
          else (above, some ⟨refusal, p⟩)
  | .error refusal =>
    if t.isDirectory working p then (t, none) else (t, some ⟨refusal, p⟩)
termination_by p.names.length
decreasing_by
  simp only [Path.parent, List.length_dropLast]
  have : 0 < p.names.length := List.length_pos_iff.2 ‹_›
  omega

end FileTree

end Tron

import Docblock.Defect
import Docblock.Encoding.Utf8

namespace Docblock

/-- Where something can be, by the names of the directories on the way from the root. -/
structure Place where
  names : List Text := []
deriving DecidableEq, Repr

inductive Node
  | directory
  | file (content : Bytes)
deriving DecidableEq, Repr

/-- Directories and files in memory. `base` is the working directory. -/
structure FileSystem where
  base : Place := {}
  entries : List (Place × Node) := []
deriving DecidableEq, Repr

namespace Place

def up (place : Place) : Place :=
  ⟨place.names.dropLast⟩

def down (place : Place) (name : Text) : Place :=
  ⟨place.names ++ [name]⟩

def step (place : Place) (part : Text) : Place :=
  if part = ['.', '.'] then place.up else place.down part

def along (place : Place) : List Text → List Place
  | [] => [place]
  | part :: parts => place :: (place.step part).along parts

def path (place : Place) : Path :=
  ⟨.slash, place.names⟩

end Place

namespace FileSystem

/-- What is at a place. The working directory and those above it are always there. -/
def get? (files : FileSystem) (place : Place) : Option Node :=
  if place.names <+: files.base.names then some .directory else files.entries.lookup place

def put (place : Place) (node : Node) : List (Place × Node) → List (Place × Node)
  | [] => [(place, node)]
  | entry :: entries =>
      if entry.1 = place then (place, node) :: entries else entry :: put place node entries

def set (files : FileSystem) (place : Place) (node : Node) : FileSystem :=
  { files with entries := put place node files.entries }

def nameLimit : Nat :=
  255

def pathLimit : Nat :=
  4096

/-- Follows the parts of a path; every part but the last must name a directory. -/
def walk (files : FileSystem) : Place → List Text → Except FileFault Place
  | place, [] => .ok place
  | place, part :: parts =>
      match files.get? place with
      | none => .error .missing
      | some (.file _) => .error .notDirectory
      | some .directory =>
          if nameLimit < (Utf8.encode part).length then .error .nameTooLong
          else files.walk (place.step part) parts

def start (files : FileSystem) (path : Path) : Place :=
  if path.root = .relative then files.base else {}

/-- The place that a path leads to, where no links are on the way. -/
def locate (files : FileSystem) (path : Path) : Except FileFault Place :=
  if pathLimit ≤ (Utf8.encode path.toText).length then .error .nameTooLong
  else files.walk (files.start path) path.parts

def makeDirectories (files : FileSystem) (place : Place) : List Text → FileSystem
  | [] => files
  | name :: names =>
      makeDirectories (files.set (place.down name) .directory) (place.down name) names

/-- Puts a node at a path below the working directory, together with the directories above it. -/
def install (files : FileSystem) (path : Path) (node : Node) : FileSystem :=
  (files.makeDirectories files.base path.parts.dropLast).set
    ⟨files.base.names ++ path.parts⟩ node

theorem lookup_put (place other : Place) (node : Node) (entries : List (Place × Node)) :
    (put place node entries).lookup other =
      if other = place then some node else entries.lookup other := by
  induction entries with
  | nil =>
      by_cases same : other = place
      · simp [put, same]
      · simp [put, List.lookup_cons, beq_eq_false_iff_ne.mpr same, same]
  | cons entry entries ih =>
      obtain ⟨key, held⟩ := entry
      by_cases here : key = place
      · subst here
        by_cases same : other = key
        · simp [put, same]
        · simp [put, List.lookup_cons, beq_eq_false_iff_ne.mpr same, same]
      · by_cases same : other = key
        · subst same
          simp [put, here]
        · simp [put, here, List.lookup_cons, beq_eq_false_iff_ne.mpr same, ih]

/-- A node that is set where no directory is changes what is there and nothing else. -/
theorem get?_set {files : FileSystem} {place : Place} (free : files.get? place ≠ some .directory)
    (other : Place) (node : Node) :
    (files.set place node).get? other = if other = place then some node else files.get? other := by
  by_cases same : other = place
  · subst same
    have outside : ¬other.names <+: files.base.names := by
      intro inside
      exact free (if_pos inside)
    simp [get?, set, lookup_put, outside]
  · simp [get?, set, lookup_put, same]

end FileSystem

end Docblock

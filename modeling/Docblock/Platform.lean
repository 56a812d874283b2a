import Docblock.Codec
import Docblock.Failure
import Docblock.FileSystem
import Docblock.Yaml.Fault

namespace Docblock

inductive Access
  | read
  | write
deriving DecidableEq, Repr

/-- What a run stands on and does not decide itself. `locate` leads a path to a place, links and the
working directory included; what is at a place may still be refused, and a write may stop after so
many bytes. A name chooses a codec, no name the usual one. The loader of configurations may remember
the texts that it has loaded before. Messages show values `room` levels deep, and the output stream
may refuse a text. -/
structure Platform where
  locate : FileSystem → Path → Except FileFault Place
  refusal? : Access → FileSystem → Place → Option FileFault
  interruption? : FileSystem → Place → Bytes → Option (Nat × FileFault)
  codec : Option Text → Except Defect Codec
  load : List Text → Text → Except Yaml.Fault Value
  room : Nat
  outputFault? : Text → Option Defect

namespace Platform

variable (platform : Platform) (files : FileSystem) (path : Path)

/-- What is at a path, as far as the system answers. Nothing is at a path with a NUL. -/
def status (platform : Platform) (files : FileSystem) (path : Path) :
    Except FileFault (Option Node) :=
  if path.hasNul then .ok none
  else
    match platform.locate files path with
    | .ok place => .ok (files.get? place)
    | .error fault => if fault.answersNo then .ok none else .error fault

def isDirectory : Except FileFault Bool :=
  (platform.status files path).map (· == some .directory)

def isFile : Except FileFault Bool :=
  (platform.status files path).map fun node => node.any (· != .directory)

def read : Except FileFault Bytes := do
  let place ← platform.locate files path
  match files.get? place, platform.refusal? .read files place with
  | none, _ => .error .missing
  | some _, some fault => .error fault
  | some .directory, none => .error .isDirectory
  | some (.file content), none => .ok content

/-- The place of a file that has been opened to be written, be it there before or not. -/
def target : Except FileFault Place := do
  let place ← platform.locate files path
  if files.get? place = some .directory then .error .isDirectory
  else
    match platform.refusal? .write files place with
    | some fault => .error fault
    | none => .ok place

variable {platform files path}

theorem status_eq_error_iff {fault : FileFault} :
    platform.status files path = .error fault ↔
      path.hasNul = false ∧ platform.locate files path = .error fault ∧
        fault.answersNo = false := by
  unfold status
  cases path.hasNul with
  | true => simp
  | false =>
      cases platform.locate files path with
      | ok place => simp
      | error found =>
          simp only [Bool.false_eq_true, if_false, Except.error.injEq, true_and]
          split
          · rename_i no
            simp only [reduceCtorEq, false_iff]
            rintro ⟨rfl, grave⟩
            simp [no] at grave
          · rename_i grave
            simp only [Except.error.injEq]
            constructor
            · rintro rfl
              exact ⟨rfl, Bool.not_eq_true _ ▸ grave⟩
            · exact And.left

theorem isFile_eq_error_iff {fault : FileFault} :
    platform.isFile files path = .error fault ↔
      path.hasNul = false ∧ platform.locate files path = .error fault ∧
        fault.answersNo = false := by
  rw [← status_eq_error_iff, isFile]
  cases platform.status files path <;> simp [Except.map]

end Platform

end Docblock

import Docblock.CommandLine.Run
import Docblock.Platform.Standard

/-!
The program. The places that the arguments name are read into memory, the run takes place there, and
what it changed is written back.
-/

namespace Docblock.CommandLine

def Request.paths : Request → List Path
  | .convert options =>
      options.source :: options.destination.toList ++ (options.config.bind id).toList
  | _ => []

def nodeAt? (place : Place) : IO (Option Node) := do
  try
    let path ← IO.FS.realPath (String.ofList place.path.toText)
    if ← path.isDir then return some .directory
    return some (.file (← IO.FS.readBinFile path).toList)
  catch _ => return none

/-- The part of the file system that lies on the way of the paths. -/
def snapshot (base : Place) (paths : List Path) : IO FileSystem := do
  let files : FileSystem := { base }
  let places := paths.flatMap fun path => (files.start path).along path.parts
  places.foldlM (fun files place => return match ← nodeAt? place with
    | some node => files.set place node
    | none => files) files

def store (before after : FileSystem) : IO Unit :=
  after.entries.forM fun (place, node) => do
    if before.get? place != some node then
      if let .file content := node then
        IO.FS.writeBinFile (String.ofList place.path.toText) content.toByteArray

end Docblock.CommandLine

open Docblock CommandLine in
def main (args : List String) : IO UInt32 := do
  let arguments := args.map String.toList
  let debug := (← IO.getEnv "DOCCONV_DEBUG").map String.toList
  let paths := match Request.parse arguments with
    | .ok request => request.paths
    | .error _ => []
  let base := (Path.ofText (← IO.currentDir).toString.toList).parts
  let files ← snapshot ⟨base⟩ paths
  let ended := run .standard debug arguments files
  store files ended.files
  (← IO.getStdout).putStr (String.ofList ended.stdout)
  (← IO.getStderr).putStr (String.ofList ended.stderr)
  match ended.ending with
  | .status code => return code.toUInt32
  | .escaped defect => do
      (← IO.getStderr).putStrLn (String.ofList defect.message)
      return 1

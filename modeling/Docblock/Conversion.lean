import Docblock.Platform
import Docblock.Report

namespace Docblock

/-- What a run over files leaves behind: the files, the log, and a result or the reason why there is
none. -/
structure Outcome (α : Type) where
  files : FileSystem
  log : List Record := []
  result : Except Failure α

namespace Conversion

/-- The text of a source file. The file is opened before the name of the encoding is looked up, which
may not hold a NUL. -/
def readSource (platform : Platform) (files : FileSystem) (path : Path) (config : Config) :
    Except Failure (Codec × Text) := do
  if config.encoding.any (·.contains '\x00') then .error (.defect .nulInEncoding)
  if path.hasNul then .error (.defect .nulInPath)
  let bytes ← (platform.read files path).mapError fun fault => .problem (.source path (.file fault))
  let codec ← (platform.codec config.encoding).mapError .defect
  let text ← (codec.decode bytes).mapError fun stop =>
    match stop with
    | .refused reason => .problem (.source path (.decode reason))
    | .broken message => .defect (.foreign message)
  return (codec, text)

def openDestination (platform : Platform) (files : FileSystem) (path : Path) :
    Except Failure Place :=
  match platform.isDirectory files path.parent with
  | .error fault => .error (.defect (.file fault path.parent))
  | .ok false => .error (.problem (.destination path (.noDirectory path.parent)))
  | .ok true =>
      if path.hasNul then .error (.defect .nulInPath)
      else (platform.target files path).mapError fun fault =>
        .problem (.destination path (.file fault))

/-- Writes a text. The destination is emptied as soon as it is opened, and the text is encoded as a
whole before any of it is written. -/
def writeDestination (platform : Platform) (files : FileSystem) (path : Path) (codec : Codec)
    (text : Text) : FileSystem × Except Failure Unit :=
  match openDestination platform files path with
  | .error failure => (files, .error failure)
  | .ok place =>
      match codec.encode text with
      | .error (.refused reason) =>
          (files.set place (.file []), .error (.problem (.destination path (.encode reason))))
      | .error (.broken message) =>
          (files.set place (.file []), .error (.defect (.foreign message)))
      | .ok bytes =>
          match platform.interruption? files place bytes with
          | some (count, fault) =>
              (files.set place (.file (bytes.take count)),
                .error (.problem (.destination path (.file fault))))
          | none => (files.set place (.file bytes), .ok ())

/-- Reads a source and converts it, without writing anything: the log, and what came of it. -/
def convertSource (platform : Platform) (config : Config) (source : Path) (files : FileSystem) :
    List Record × Except Failure (Codec × Context) :=
  match readSource platform files source config with
  | .error failure => ([], .error failure)
  | .ok (codec, text) =>
      let lines := text.lines
      let (context, unclosed) := convertLines config (some source) lines
      let log := .read lines.length source :: context.yield.log
      match unclosed with
      | some block => (log, .error (.problem (.unterminated block)))
      | none => (log, .ok (codec, context))

end Conversion

def convertFile (platform : Platform) (config : Config) (source destination : Path)
    (files : FileSystem) : Outcome Report :=
  match Conversion.convertSource platform config source files with
  | (log, .error failure) => ⟨files, log, .error failure⟩
  | (log, .ok (codec, context)) =>
      match Conversion.writeDestination platform files destination codec context.text with
      | (written, .error failure) => ⟨written, log, .error failure⟩
      | (written, .ok ()) =>
          ⟨written, log ++ [.wrote context.yield.lines.length destination],
            .ok ⟨source, destination, context.stats⟩⟩

end Docblock

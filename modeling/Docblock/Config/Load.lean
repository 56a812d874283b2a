import Docblock.Config.Read
import Docblock.Platform

namespace Docblock

def Text.unifyBreaks : Text → Text
  | [] => []
  | '\r' :: '\n' :: rest => '\n' :: unifyBreaks rest
  | c :: rest => (if c = '\r' then '\n' else c) :: unifyBreaks rest

namespace Config

/-- The text of a configuration file. -/
def fileText (platform : Platform) (path : Path) (files : FileSystem) : Except Failure Text :=
  match platform.isFile files path with
  | .error fault => .error (.defect (.file fault path))
  | .ok false => .error (.problem (.config (.missing path)))
  | .ok true =>
      match platform.read files path with
      | .error fault => .error (.problem (.config (.unreadable path fault)))
      | .ok bytes =>
          match Utf8.decode bytes with
          | .error error => .error (.problem (.config (.undecodable path error)))
          | .ok text => .ok text.unifyBreaks

/-- The configuration of a file with a given content; null stands for a file without a document. -/
def ofContent (room : Nat) (path : Path) : Except Yaml.Fault Value → Except Failure Config
  | .error (.malformed reason) => .error (.problem (.config (.malformed path reason)))
  | .error (.defect cause) => .error (.defect cause)
  | .ok .null => Config.ofValue room .null
  | .ok value =>
      if (Entries.ofMapping? value).isSome then Config.ofValue room value
      else .error (.problem (.config (.notMappingFile path value)))

/-- Loads a configuration file after the texts of others. -/
def load (platform : Platform) (before : List Text) (path : Path) (files : FileSystem) :
    Except Failure Config := do
  let text ← fileText platform path files
  ofContent platform.room path (platform.load before text)

def loadLog (path : Path) : Except Failure Config → List Record
  | .ok config => [.loaded path config]
  | .error _ => []

end Config

end Docblock

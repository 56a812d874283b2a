import Docblock.Context
import Docblock.Value

namespace Docblock

inductive ConfigError
  | notMapping (scope : Text) (found : Value)
  | unknownKeys (scope : Text) (keys : List Text)
  | notText (scope : Text) (found : Value)
  | emptyText (scope : Text)
  | continuation (found : Value)
  | openTail (found : Value)
  | newline (found : Value)
  | missing (path : Path)
  | unreadable (path : Path) (fault : FileFault)
  | undecodable (path : Path) (error : DecodeError)
  | malformed (path : Path) (reason : Text)
  | notMappingFile (path : Path) (found : Value)

inductive ReadFault
  | file (fault : FileFault)
  | decode (reason : Text)
deriving DecidableEq, Repr

inductive WriteFault
  | noDirectory (directory : Path)
  | file (fault : FileFault)
  | encode (reason : Text)
deriving DecidableEq, Repr

inductive Problem
  | config (error : ConfigError)
  | source (path : Path) (fault : ReadFault)
  | destination (path : Path) (fault : WriteFault)
  | unterminated (block : Unclosed)

/-- Why a run has no result. A problem is the user's to mend and is reported in one line; a defect
ends the run without a report. -/
inductive Failure
  | problem (cause : Problem)
  | defect (cause : Defect)

def expected (scope : Text) (what : String) (found : Value) : Text :=
  scope ++ ": expected ".toList ++ what.toList ++ ", got ".toList ++ found.typeName

def ConfigError.message : ConfigError → Text
  | .notMapping scope found => expected scope "mapping" found
  | .unknownKeys scope keys =>
      scope ++ ": unknown key(s): ".toList ++ Text.join ", ".toList keys
  | .notText scope found => expected scope "string" found
  | .emptyText scope => scope ++ ": must not be empty".toList
  | .continuation found =>
      "config.param_continuation: expected 'prepend' or 'append', got ".toList ++ found.display
  | .openTail found =>
      "config.on_unterminated: expected 'error', 'flush' or 'drop', got ".toList ++ found.display
  | .newline found => "config.newline: unsupported line separator ".toList ++ found.display
  | .missing path => "Config file not found: ".toList ++ path.toText
  | .unreadable path fault =>
      "Failed to read config file ".toList ++ path.toText ++ ": ".toList ++ fault.display path
  | .undecodable path error =>
      "Failed to read config file ".toList ++ path.toText ++ ": ".toList ++ error.message
  | .malformed path reason =>
      "Invalid YAML in ".toList ++ path.toText ++ ": ".toList ++ reason
  | .notMappingFile path found =>
      path.toText ++ ": top level must be a mapping, got ".toList ++ found.typeName

def ReadFault.text : ReadFault → Text
  | .file fault => fault.text
  | .decode reason => reason

def WriteFault.text : WriteFault → Text
  | .noDirectory directory =>
      "directory '".toList ++ directory.toText ++ "' does not exist".toList
  | .file fault => fault.text
  | .encode reason => reason

def Unclosed.place (block : Unclosed) : Text :=
  match block.source with
  | some path => path.toText ++ ':' :: Text.ofInt block.openedAt
  | none => "line ".toList ++ Text.ofInt block.openedAt

def Unclosed.message (block : Unclosed) : Text :=
  "Comment block opened at ".toList ++ block.place ++ " is never closed".toList

def Problem.message : Problem → Text
  | .config error => error.message
  | .source path fault =>
      "Cannot read source file '".toList ++ path.toText ++ "': ".toList ++ fault.text
  | .destination path fault =>
      "Cannot write destination file '".toList ++ path.toText ++ "': ".toList ++ fault.text
  | .unterminated block => block.message

def Problem.kindName : Problem → Text
  | .config _ => "ConfigError".toList
  | .source _ _ => "SourceReadError".toList
  | .destination _ _ => "DestinationWriteError".toList
  | .unterminated _ => "UnterminatedBlockError".toList

def Failure.message : Failure → Text
  | .problem cause => cause.message
  | .defect cause => cause.message

end Docblock

import Docblock.Config.Display
import Docblock.Fragment
import Docblock.Path

namespace Docblock

inductive Level
  | debug
  | warning
deriving DecidableEq, Repr

inductive Record
  | opened (line : Int)
  | closed (line : Int) (count : Nat)
  | indentation (line : Int) (width : Int)
  | switched (source target : SectionKind)
  | emitted (fragment : Fragment)
  | noValue
  | orphan (text : Text)
  | tailCopied (line : Int)
  | tailDropped (line : Int)
  | loaded (path : Path) (config : Config)
  | read (count : Nat) (path : Path)
  | wrote (count : Nat) (path : Path)
deriving DecidableEq, Repr

def Level.name : Level → Text
  | .debug => "DEBUG".toList
  | .warning => "WARNING".toList

namespace Record

/-- Text that the conversion does not carry over, or carries over unread, is worth a warning. -/
def level : Record → Level
  | .orphan _ => .warning
  | .tailCopied _ => .warning
  | .tailDropped _ => .warning
  | _ => .debug

def message : Record → Text
  | .opened line => "Comment block opened at line ".toList ++ Text.ofInt line
  | .closed line count =>
      "Comment block closed at line ".toList ++ Text.ofInt line ++ " (".toList ++
        Text.ofNat count ++ " line(s))".toList
  | .indentation line width =>
      "Indentation for block at line ".toList ++ Text.ofInt line ++ ": ".toList ++ Text.ofInt width
  | .switched source target => "Section ".toList ++ source.name ++ " -> ".toList ++ target.name
  | .emitted fragment =>
      "Emitted ".toList ++ fragment.openTag ++ " (".toList ++
        Text.ofNat fragment.bodyLines.length ++ " body line(s), indent ".toList ++
        Text.ofInt fragment.indent ++ [')']
  | .noValue => "Returns section holds no value, nothing emitted".toList
  | .orphan text =>
      "Parameter text without a parameter name dropped: ".toList ++ text.quoted
  | .tailCopied line =>
      "Comment block opened at line ".toList ++ Text.ofInt line ++
        " is never closed; copied unchanged".toList
  | .tailDropped line =>
      "Comment block opened at line ".toList ++ Text.ofInt line ++
        " is never closed; dropped".toList
  | .loaded path config =>
      "Loaded config from ".toList ++ path.toText ++ ": ".toList ++ config.display
  | .read count path => "Read ".toList ++ Text.ofNat count ++ " line(s) from ".toList ++ path.toText
  | .wrote count path =>
      "Wrote ".toList ++ Text.ofNat count ++ " line(s) to ".toList ++ path.toText

def display (record : Record) : Text :=
  '[' :: record.level.name ++ "] ".toList ++ record.message

end Record

def Record.visible (verbose : Bool) (record : Record) : Bool :=
  verbose || record.level = .warning

end Docblock

import Docblock.Moment
import Docblock.Numeral
import Docblock.Path

namespace Docblock

/-- Why the system refuses an operation on files: a number and what the system calls it. -/
structure FileFault where
  code : Nat
  text : Text
deriving DecidableEq, Repr

namespace FileFault

def missing : FileFault :=
  ⟨2, "No such file or directory".toList⟩

def notDirectory : FileFault :=
  ⟨20, "Not a directory".toList⟩

def isDirectory : FileFault :=
  ⟨21, "Is a directory".toList⟩

def nameTooLong : FileFault :=
  ⟨36, "File name too long".toList⟩

/-- A fault that answers the question whether something is there: no such file, no directory on the
way, a descriptor that is not open, or too many links on the way. -/
def answersNo (fault : FileFault) : Bool :=
  [2, 20, 9, 40].contains fault.code

def display (fault : FileFault) (path : Path) : Text :=
  "[Errno ".toList ++ Text.ofNat fault.code ++ "] ".toList ++ fault.text ++ ": ".toList ++
    path.toText.quoted

end FileFault

/-- What is not foreseen, and ends a run without a report. -/
inductive Defect
  | keyNotText (typeName : Text)
  | keysNotOrdered (first second : Text)
  | zonesMixed
  | dateAndMoment
  | notHashable (typeName : Text)
  | keyRepeated
  | absentSection
  | notSection (typeName : Text)
  | numeral (fault : Numeral.Fault)
  | numberTooLong
  | truthUnknown (text : Text)
  | moment (fault : Moment.Fault)
  | codePointRange
  | codePointSize
  | editionRefused (major minor : Nat)
  | editionUnknown (major minor : Nat)
  | nulInEncoding
  | unknownEncoding (name : Text)
  | voidConfig
  | voidDestination
  | nulInPath
  | file (fault : FileFault) (path : Path)
  | noDistributionName
  | tooDeep
  | foreign (message : Text)
deriving DecidableEq, Repr

def pairText (first second : Nat) : Text :=
  '(' :: Text.ofNat first ++ ", ".toList ++ Text.ofNat second ++ [')']

def missingAttribute (typeName : Text) (member : String) : Text :=
  '\'' :: typeName ++ "' object has no attribute '".toList ++ member.toList ++ ['\'']

def Defect.message : Defect → Text
  | .keyNotText typeName =>
      "sequence item 0: expected str instance, ".toList ++ typeName ++ " found".toList
  | .keysNotOrdered first second =>
      "'<' not supported between instances of '".toList ++ second ++ "' and '".toList ++ first ++
        ['\'']
  | .zonesMixed => "can't compare offset-naive and offset-aware datetimes".toList
  | .dateAndMoment => "can't compare datetime.datetime to datetime.date".toList
  | .notHashable typeName => "unhashable type: '".toList ++ typeName ++ ['\'']
  | .keyRepeated => []
  | .absentSection => missingAttribute "NoneType".toList "get"
  | .notSection typeName => missingAttribute typeName "keys"
  | .numeral fault => fault.message
  | .numberTooLong => Numeral.limitText ++ Numeral.limitAdvice
  | .truthUnknown text => text.quoted
  | .moment fault => fault.message
  | .codePointRange => "chr() arg not in range(0x110000)".toList
  | .codePointSize => "Python int too large to convert to C int".toList
  | .editionRefused major minor =>
      "version minor part can only be 2 or 1, got ".toList ++ pairText major minor
  | .editionUnknown major minor => pairText major minor
  | .nulInEncoding => "embedded null character".toList
  | .unknownEncoding name => "unknown encoding: ".toList ++ name
  | .voidConfig => missingAttribute "list".toList "is_file"
  | .voidDestination => missingAttribute "list".toList "parent"
  | .nulInPath => "embedded null byte".toList
  | .file fault path => fault.display path
  | .noDistributionName => "A distribution name is required.".toList
  | .tooDeep => "maximum recursion depth exceeded while getting the repr of an object".toList
  | .foreign message => message

end Docblock

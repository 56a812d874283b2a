import Docblock.Sentinel

namespace Docblock

/-- Delimiters of documentation blocks and line comments, and the marker in front of every line
that is written for a block. -/
structure Markers where
  opening : Text := "\x7b@@".toList
  closing : Text := "\x7d".toList
  lineComment : Text := "//".toList
  doc : Text := "///".toList
deriving DecidableEq, Repr

structure Sentinels where
  summary : Text := "Summary:".toList
  parameters : Text := "Parameters:".toList
  returns : Text := "Returns:".toList
  description : Text := "Description:".toList
  separator : Text := " - ".toList
  noValue : Text := "  None.".toList
deriving DecidableEq, Repr

structure Tags where
  summary : Text := "summary".toList
  param : Text := "param".toList
  returns : Text := "returns".toList
  paramAttr : Text := "name".toList
deriving DecidableEq, Repr

/-- Where a further line of a parameter goes: in front of its text, or behind it. -/
inductive Continuation
  | prepend
  | append
deriving DecidableEq, Repr

/-- What becomes of a block that the source never closes. -/
inductive OpenTail
  | error
  | flush
  | drop
deriving DecidableEq, Repr

inductive Newline
  | lf
  | crlf
  | cr
deriving DecidableEq, Repr

def Continuation.name : Continuation → Text
  | .prepend => "prepend".toList
  | .append => "append".toList

def OpenTail.name : OpenTail → Text
  | .error => "error".toList
  | .flush => "flush".toList
  | .drop => "drop".toList

def Newline.text : Newline → Text
  | .lf => ['\n']
  | .crlf => ['\r', '\n']
  | .cr => ['\r']

structure Config where
  markers : Markers := {}
  sentinels : Sentinels := {}
  tags : Tags := {}
  continuation : Continuation := .prepend
  openTail : OpenTail := .error
  newline : Option Newline := none
  encoding : Option Text := none
deriving DecidableEq, Repr

namespace Config

def lineSeparator (config : Config) : Text :=
  (config.newline.getD .lf).text

/-- The sentinels that start a section, in the order that settles a tie. -/
def sectionSentinels (config : Config) : List Sentinel :=
  [⟨.summary, config.sentinels.summary⟩, ⟨.parameters, config.sentinels.parameters⟩,
    ⟨.returns, config.sentinels.returns⟩]

end Config

end Docblock

import Docblock.CommandLine.Usage
import Docblock.Config.Load
import Docblock.Conversion

/-!
Runs of the command line. A run ends with a status: 0 for success, 1 for arguments that ask for
nothing, 2 for a problem.
-/

namespace Docblock.CommandLine

/-- The logger of a process: what it lets through, and how often it writes each record. -/
structure Logger where
  verbose : Bool := false
  sinks : Nat := 0
deriving DecidableEq, Repr

namespace Logger

/-- Sets the level; a sink is added only if there is none. -/
def configure (logger : Logger) (verbose : Bool) : Logger :=
  ⟨verbose, if logger.sinks = 0 then 1 else logger.sinks⟩

def text (logger : Logger) (records : List Record) : Text :=
  (records.filter (Record.visible logger.verbose)).flatMap fun record =>
    (List.replicate logger.sinks (record.display ++ ['\n'])).flatten

end Logger

inductive Ending
  | status (code : Nat)
  | escaped (defect : Defect)
deriving DecidableEq, Repr

structure Ended where
  files : FileSystem
  stdout : Text := []
  stderr : Text := []
  ending : Ending
deriving DecidableEq, Repr

/-- What the runs of a process share: a logger, and a loader of configurations by the texts that it
has loaded. -/
structure Process where
  logger : Logger := {}
  texts : List Text := []

def Options.configText? (platform : Platform) (options : Options) (files : FileSystem) :
    Option Text :=
  match options.config with
  | some (some path) => (Config.fileText platform path files).toOption
  | _ => none

/-- Converts. A destination that is void is missed only when something is to be written. -/
def convertTo (platform : Platform) (config : Config) (source : Path) (destination : Slot)
    (files : FileSystem) : Outcome Report :=
  match destination with
  | some path => convertFile platform config source path files
  | none =>
      let (log, result) := Conversion.convertSource platform config source files
      ⟨files, log, result.bind fun _ => .error (.defect .voidDestination)⟩

def convert (platform : Platform) (before : List Text) (options : Options) (files : FileSystem) :
    Outcome Report :=
  match options.config with
  | none => convertTo platform {} options.source options.destination files
  | some none => ⟨files, [], .error (.defect .voidConfig)⟩
  | some (some path) =>
      let loaded := Config.load platform before path files
      match loaded with
      | .error failure => ⟨files, Config.loadLog path loaded, .error failure⟩
      | .ok config =>
          let outcome := convertTo platform config options.source options.destination files
          { outcome with log := Config.loadLog path loaded ++ outcome.log }

def problemText (problem : Problem) : Text :=
  problem.kindName ++ ": ".toList ++ problem.message.stripEnd ++ ['\n']

def reportText (options : Options) (report : Report) : Text :=
  if options.report then report.toJson ++ ['\n'] else []

/-- The end of a run that has so much to print, unless the output stream does not take it. -/
def print (platform : Platform) (files : FileSystem) (stderr : Text) (code : Nat) (text : Text) :
    Ended :=
  match if text.isEmpty then none else platform.outputFault? text with
  | none => ⟨files, text, stderr, .status code⟩
  | some defect => ⟨files, [], stderr, .escaped defect⟩

def conclude (platform : Platform) (options : Options) (logger : Logger)
    (outcome : Outcome Report) : Ended :=
  let stderr := logger.text outcome.log
  match outcome.result with
  | .ok report => print platform outcome.files stderr 0 (reportText options report)
  | .error (.problem problem) => print platform outcome.files stderr 2 (problemText problem)
  | .error (.defect defect) => ⟨outcome.files, [], stderr, .escaped defect⟩

/-- What is seen of a text that is printed if possible. -/
def printed (platform : Platform) (text : Text) : Text :=
  if (platform.outputFault? text).isSome then [] else text

/-- One run in a process. `debug` is the value of the variable that asks for all records. -/
def runIn (platform : Platform) (process : Process) (debug : Option Text) (arguments : List Text)
    (files : FileSystem) : Process × Ended :=
  match Request.parse arguments with
  | .error error => (process, ⟨files, [], error.text, .status 1⟩)
  | .ok .help => (process, ⟨files, printed platform helpText, [], .status 0⟩)
  | .ok .version => (process, ⟨files, printed platform versionText, [], .status 0⟩)
  | .ok (.convert options) =>
      let logger := process.logger.configure (options.verbose || debug.any (!·.isEmpty))
      let texts := process.texts ++ (options.configText? platform files).toList
      (⟨logger, texts⟩,
        conclude platform options logger (convert platform process.texts options files))

def run (platform : Platform) (debug : Option Text) (arguments : List Text) (files : FileSystem) :
    Ended :=
  (runIn platform {} debug arguments files).2

/-- Runs one after another in one process, each on the files that the one before left. -/
def sessionIn (platform : Platform) (debug : Option Text) :
    Process → List (List Text) → FileSystem → List Ended
  | _, [], _ => []
  | process, arguments :: others, files =>
      let (next, ended) := runIn platform process debug arguments files
      ended :: sessionIn platform debug next others ended.files

def session (platform : Platform) (debug : Option Text) (runs : List (List Text))
    (files : FileSystem) : List Ended :=
  sessionIn platform debug {} runs files

end Docblock.CommandLine

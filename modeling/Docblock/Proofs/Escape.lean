import Docblock.Proofs.ExitStatus

namespace Docblock

namespace Conversion

/-- Why a source is not read, other than for a problem. -/
inductive Unread (platform : Platform) (config : Config) (source : Path) (files : FileSystem) :
    Defect → Prop
  | nulInEncoding (nul : config.encoding.any (·.contains '\x00') = true) :
      Unread platform config source files .nulInEncoding
  | nulInPath (clean : config.encoding.any (·.contains '\x00') = false)
      (nul : source.hasNul = true) : Unread platform config source files .nulInPath
  | unknownEncoding {bytes : Bytes} {cause : Defect}
      (clean : config.encoding.any (·.contains '\x00') = false) (legal : source.hasNul = false)
      (read : platform.read files source = .ok bytes)
      (unknown : platform.codec config.encoding = .error cause) :
      Unread platform config source files cause
  | undecoded {bytes : Bytes} {codec : Codec} {message : Text}
      (clean : config.encoding.any (·.contains '\x00') = false) (legal : source.hasNul = false)
      (read : platform.read files source = .ok bytes)
      (known : platform.codec config.encoding = .ok codec)
      (broken : codec.decode bytes = .error (.broken message)) :
      Unread platform config source files (.foreign message)

variable {platform : Platform} {config : Config} {source : Path} {files : FileSystem}
  {cause : Defect}

/-- Why a text is not written, other than for a problem. -/
inductive Unwritten (platform : Platform) (files : FileSystem) (codec : Codec) (text : Text) :
    CommandLine.Slot → Defect → Prop
  | void : Unwritten platform files codec text none .voidDestination
  | unseen {path : Path} {fault : FileFault} (legal : path.parent.hasNul = false)
      (refused : platform.locate files path.parent = .error fault)
      (grave : fault.answersNo = false) :
      Unwritten platform files codec text (some path) (.file fault path.parent)
  | nul {path : Path} (directory : platform.isDirectory files path.parent = .ok true)
      (nul : path.hasNul = true) : Unwritten platform files codec text (some path) .nulInPath
  | unencoded {path : Path} {place : Place} {message : Text}
      (opens : platform.Opens files path place)
      (broken : codec.encode text = .error (.broken message)) :
      Unwritten platform files codec text (some path) (.foreign message)

end Conversion

namespace CommandLine

open Conversion

variable {platform : Platform} {before : List Text} {options : Options} {files : FileSystem}
  {cause : Defect}

/-- The output stream does not take what there is to print at the end of a run. -/
inductive Unprinted (platform : Platform) (options : Options) (outcome : Outcome Report)
    (cause : Defect) : Prop
  | report {report : Report} (asked : options.report = true)
      (succeeded : outcome.result = .ok report)
      (untaken : platform.outputFault? (reportText options report) = some cause) :
      Unprinted platform options outcome cause
  | problem {problem : Problem} (failed : outcome.result = .error (.problem problem))
      (untaken : platform.outputFault? (problemText problem) = some cause) :
      Unprinted platform options outcome cause

/-- Why a run that converts ends without a status: all that goes wrong and is not reported. -/
inductive Unforeseen (platform : Platform) (before : List Text) (options : Options)
    (files : FileSystem) : Defect → Prop
  | voidConfig (void : options.config = some none) :
      Unforeseen platform before options files .voidConfig
  | config {path : Path} {cause : Defect} (named : options.config = some (some path))
      (unloaded : Config.Unloaded platform before path files cause) :
      Unforeseen platform before options files cause
  | source {config : Config} {cause : Defect}
      (loads : options.Loads platform before files config)
      (unread : Unread platform config options.source files cause) :
      Unforeseen platform before options files cause
  | destination {config : Config} {codec : Codec} {context : Context} {cause : Defect}
      (loads : options.Loads platform before files config)
      (converted : (convertSource platform config options.source files).2 = .ok (codec, context))
      (unwritten : Unwritten platform files codec context.text options.destination cause) :
      Unforeseen platform before options files cause
  | output {cause : Defect}
      (unprinted : Unprinted platform options (convert platform before options files) cause) :
      Unforeseen platform before options files cause

end CommandLine

end Docblock

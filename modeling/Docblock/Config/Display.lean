import Docblock.Config
import Docblock.Text.Quoted

namespace Docblock

def displayRecord (name : String) (fields : List (String × Text)) : Text :=
  name.toList ++ '(' ::
    Text.join ", ".toList (fields.map fun field => field.1.toList ++ '=' :: field.2) ++ [')']

def displayOption : Option Text → Text
  | none => "None".toList
  | some text => text.quoted

def Markers.display (markers : Markers) : Text :=
  displayRecord "MarkerCfg"
    [("open", markers.opening.quoted), ("close", markers.closing.quoted),
      ("line_comment", markers.lineComment.quoted), ("doc", markers.doc.quoted)]

def Sentinels.display (sentinels : Sentinels) : Text :=
  displayRecord "SentinelCfg"
    [("summary", sentinels.summary.quoted), ("parameters", sentinels.parameters.quoted),
      ("returns", sentinels.returns.quoted), ("description", sentinels.description.quoted),
      ("param_separator", sentinels.separator.quoted), ("returns_none", sentinels.noValue.quoted)]

def Tags.display (tags : Tags) : Text :=
  displayRecord "TagCfg"
    [("summary", tags.summary.quoted), ("param", tags.param.quoted),
      ("returns", tags.returns.quoted), ("param_attr", tags.paramAttr.quoted)]

def Config.display (config : Config) : Text :=
  displayRecord "ConverterCfg"
    [("markers", config.markers.display), ("sentinels", config.sentinels.display),
      ("tags", config.tags.display), ("param_continuation", config.continuation.name.quoted),
      ("on_unterminated", config.openTail.name.quoted),
      ("newline", displayOption (config.newline.map Newline.text)),
      ("encoding", displayOption config.encoding)]

end Docblock

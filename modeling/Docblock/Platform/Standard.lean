import Docblock.Encoding
import Docblock.Platform
import Docblock.Yaml.Load

namespace Docblock

/-- Files in memory without links, where nothing is refused for its rights and every write ends; a
few encodings; and an output stream that takes every text. -/
def Platform.standard : Platform where
  locate := FileSystem.locate
  refusal? _ _ _ := none
  interruption? _ _ _ := none
  codec name := (Encoding.chosen name).map Encoding.codec
  load := Yaml.load
  room := Value.usualRoom
  outputFault? _ := none

end Docblock

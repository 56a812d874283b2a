import Docblock.Yaml.Assembly
import Docblock.Yaml.Document

namespace Docblock.Yaml

/-- The value of a text, null if it has no document, and the edition by which the next text is read:
the last one that a directive has named. -/
def read (edition : Option Edition) (text : Text) : Except Fault Value × Option Edition :=
  if text.any isForbidden then (.error .illFormed, edition)
  else
    let (root, reading) :=
      (Reader.root (16 * (text.length + 2))).run { scan := { cursor := { rest := text }, edition } }
    let value := match root with
      | .error fault => .error fault
      | .ok none => .ok .null
      | .ok (some id) =>
          ((Assembling.document id).run { graph := reading.graph, edition := reading.scan.rules }).1
    (value, reading.scan.edition)

def load (before : List Text) (text : Text) : Except Fault Value :=
  let edition := before.foldl (fun edition text => (read edition text).2) none
  (read edition text).1

end Docblock.Yaml

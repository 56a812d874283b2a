import Docblock.Failure
import Docblock.Text.Lower

namespace Docblock.Version

/-- Runs of `-`, `_` and `.` count as one underscore. -/
def collapse : Text → Text
  | [] => []
  | c :: cs =>
      let rest := collapse cs
      if c == '-' || c == '_' || c == '.' then
        if rest.head? = some '_' then rest else '_' :: rest
      else c :: rest

def normalize (name : Text) : Text :=
  Text.lower (collapse name)

def distribution : Text :=
  "doc-comment-converter".toList

/-- A distribution that is not installed has version 0.0.0. -/
def ofDistribution (name : Text) : Except Defect Text :=
  if name.isEmpty then .error .noDistributionName
  else if normalize name = normalize distribution then .ok "0.1.0".toList
  else .ok "0.0.0".toList

end Docblock.Version

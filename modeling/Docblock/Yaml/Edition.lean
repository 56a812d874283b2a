namespace Docblock.Yaml

structure Edition where
  major : Nat
  minor : Nat
deriving DecidableEq, Repr

namespace Edition

def standard : Edition :=
  ⟨1, 2⟩

def old : Edition :=
  ⟨1, 1⟩

def isOld (edition : Edition) : Bool :=
  edition == old

def isNew (edition : Edition) : Bool :=
  1 < edition.major || (edition.major == 1 && 1 < edition.minor)

end Edition

end Docblock.Yaml

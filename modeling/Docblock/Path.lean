import Docblock.Text.Basic

/-!
File paths in canonical written form: no empty part and no `.` part. A `..` part is kept, because
its meaning depends on the file system.
-/

namespace Docblock

/-- Where a path starts. Exactly two leading slashes are told apart from one; more count as one. -/
inductive Path.Root
  | relative
  | slash
  | twoSlashes
deriving DecidableEq, Repr

structure Path where
  root : Path.Root
  parts : List Text
deriving DecidableEq, Repr

namespace Path

def Root.text : Root → Text
  | .relative => []
  | .slash => ['/']
  | .twoSlashes => ['/', '/']

def Root.ofText (text : Text) : Root :=
  match (text.takeWhile (· == '/')).length with
  | 0 => .relative
  | 2 => .twoSlashes
  | _ => .slash

def isName (part : Text) : Bool :=
  !part.isEmpty && part != ['.']

def ofText (text : Text) : Path :=
  ⟨.ofText text, (text.split '/').filter isName⟩

def toText (path : Path) : Text :=
  if path.root = .relative && path.parts.isEmpty then ['.']
  else path.root.text ++ Text.join ['/'] path.parts

/-- The directory a path stands in; a path without parts is its own parent. -/
def parent (path : Path) : Path :=
  { path with parts := path.parts.dropLast }

def hasNul (path : Path) : Bool :=
  path.parts.any (·.contains '\x00')

@[simp] theorem ofText_nil : ofText [] = ⟨.relative, []⟩ := rfl

end Path

end Docblock

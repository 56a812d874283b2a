import Docblock.Text.Basic

/-!
Tagged comment fragments, the target of a conversion. A fragment is written as an opening tag line,
its body lines and a closing tag line, each behind the indentation and the documentation marker.
-/

namespace Docblock

structure Fragment where
  tag : Text
  body : Text
  indent : Int := 0
  attr : Option Text := none
deriving DecidableEq, Repr

namespace Fragment

/-- The attribute with a space in front; an empty attribute is not written. -/
def attributeText (fragment : Fragment) : Text :=
  match fragment.attr with
  | none => []
  | some [] => []
  | some attr => ' ' :: attr

def openTag (fragment : Fragment) : Text :=
  '<' :: fragment.tag ++ fragment.attributeText ++ ['>']

def closeTag (fragment : Fragment) : Text :=
  ['<', '/'] ++ fragment.tag ++ ['>']

def bodyLines (fragment : Fragment) : List Text :=
  fragment.body.split '\n'

/-- What stands in front of every line; a negative indentation is none. -/
def lead (doc : Text) (fragment : Fragment) : Text :=
  List.replicate fragment.indent.toNat ' ' ++ doc ++ [' ']

def render (doc newline : Text) (fragment : Fragment) : List Text :=
  (fragment.openTag :: fragment.bodyLines ++ [fragment.closeTag]).map fun text =>
    fragment.lead doc ++ text ++ newline

@[simp] theorem length_render (doc newline : Text) (fragment : Fragment) :
    (fragment.render doc newline).length = fragment.bodyLines.length + 2 := by
  simp [render]

end Fragment

end Docblock

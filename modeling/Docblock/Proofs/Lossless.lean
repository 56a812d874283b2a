import Docblock.Fragment
import Docblock.Line

/-!
What the lines of a fragment tell of it. Nothing divides the indentation of a line from the
documentation marker, which may begin with spaces or hold nothing else; but on the lines of the two
tags a `<` comes after both, so that their leading spaces tell the indentation.
-/

namespace Docblock

namespace Text

theorem leadingSpaces_replicate_append (count : Nat) (text : Text) :
    leadingSpaces (List.replicate count ' ' ++ text) = count + leadingSpaces text := by
  induction count with
  | zero => simp
  | succ count induction =>
      rw [List.replicate_succ, List.cons_append, leadingSpaces_space, induction]
      omega

theorem leadingSpaces_append_cons {c : Char} (other : c ≠ ' ') (front rest : Text) :
    leadingSpaces (front ++ c :: rest) = leadingSpaces (front ++ [c]) := by
  have stops : ∀ behind, (c :: behind).takeWhile (· == ' ') = [] := by
    intro behind
    exact List.takeWhile_cons_of_neg (by simpa using other)
  rw [leadingSpaces, leadingSpaces, List.takeWhile_append, List.takeWhile_append, stops, stops]

end Text

namespace Fragment

open Text

/-- Fragments that differ at most in that one has an empty attribute and the other has none. -/
structure Alike (first second : Fragment) : Prop where
  tag : first.tag = second.tag
  body : first.body = second.body
  indent : first.indent = second.indent
  attr : first.attr.getD [] = second.attr.getD []

variable {doc newline : Text} {first second : Fragment}

theorem leadingSpaces_lead_append (doc : Text) (fragment : Fragment) (rest : Text) :
    leadingSpaces (fragment.lead doc ++ '<' :: rest) =
      fragment.indent.toNat + leadingSpaces (doc ++ [' ', '<']) := by
  have sign : '<' ≠ ' ' := by decide
  rw [lead, List.append_assoc, List.append_assoc, leadingSpaces_replicate_append,
    ← List.append_assoc, leadingSpaces_append_cons sign, List.append_assoc]
  rfl

theorem toNat_indent_eq_of_render_eq
    (same : first.render doc newline = second.render doc newline) :
    first.indent.toNat = second.indent.toNat := by
  have opening : first.lead doc ++ first.openTag ++ newline =
      second.lead doc ++ second.openTag ++ newline := (List.cons.inj same).1
  have width := congrArg leadingSpaces (List.append_cancel_right opening)
  simp only [openTag, List.cons_append, leadingSpaces_lead_append] at width
  exact Nat.add_right_cancel width

theorem attributeText_eq (fragment : Fragment) :
    fragment.attributeText =
      if fragment.attr.getD [] = [] then [] else ' ' :: fragment.attr.getD [] := by
  obtain ⟨tag, body, indent, attr⟩ := fragment
  cases attr with
  | none => rfl
  | some attr =>
      cases attr with
      | nil => rfl
      | cons c attr => rfl

theorem tail_attributeText (fragment : Fragment) :
    fragment.attributeText.tail = fragment.attr.getD [] := by
  rw [attributeText_eq]
  split
  · rename_i empty
    exact empty.symm
  · rfl

theorem attributeText_eq_iff :
    first.attributeText = second.attributeText ↔ first.attr.getD [] = second.attr.getD [] := by
  constructor
  · intro same
    rw [← tail_attributeText, ← tail_attributeText, same]
  · intro same
    rw [attributeText_eq, attributeText_eq, same]

theorem tag_eq_of_closeTag_eq (same : first.closeTag = second.closeTag) :
    first.tag = second.tag :=
  List.append_cancel_left (List.append_cancel_right same)

theorem attr_eq_of_openTag_eq (tag : first.tag = second.tag)
    (same : first.openTag = second.openTag) : first.attr.getD [] = second.attr.getD [] := by
  apply attributeText_eq_iff.mp
  rw [openTag, openTag, tag] at same
  exact List.append_cancel_left (List.append_cancel_right same)

theorem Alike.render_eq (alike : first.Alike second) :
    first.render doc newline = second.render doc newline := by
  have opening : first.openTag = second.openTag := by
    rw [openTag, openTag, alike.tag, attributeText_eq_iff.mpr alike.attr]
  rw [render, render, lead, lead, bodyLines, bodyLines, closeTag, closeTag, opening, alike.tag,
    alike.body, alike.indent]

theorem alike_of_render_eq (indented : 0 ≤ first.indent) (indented' : 0 ≤ second.indent)
    (same : first.render doc newline = second.render doc newline) : first.Alike second := by
  -- The indentation comes first: only then is what stands around the contents the same.
  have indent : first.indent = second.indent := by
    rw [← Int.toNat_of_nonneg indented, ← Int.toNat_of_nonneg indented',
      toNat_indent_eq_of_render_eq same]
  have contents : first.openTag :: first.bodyLines ++ [first.closeTag] =
      second.openTag :: second.bodyLines ++ [second.closeTag] := by
    rw [render, render, lead, lead, indent] at same
    refine (List.map_inj_right ?_).mp same
    intro content content' line
    exact List.append_cancel_left (List.append_cancel_right line)
  obtain ⟨opening, others⟩ := List.cons.inj contents
  obtain ⟨body, closing⟩ := List.append_inj' others rfl
  have tag := tag_eq_of_closeTag_eq (List.cons.inj closing).1
  exact ⟨tag, split_inj.mp body, indent, attr_eq_of_openTag_eq tag opening⟩

theorem bodyLines_of_join {fragment : Fragment} {texts : List Text}
    (unbroken : ∀ text ∈ texts, '\n' ∉ text) (body : fragment.body = join ['\n'] texts) :
    fragment.bodyLines = if texts = [] then [[]] else texts := by
  rw [bodyLines, body]
  split
  · rename_i none
    rw [none]
    rfl
  · rename_i filled
    exact split_join filled unbroken

theorem tail_dropLast_render (doc newline : Text) (fragment : Fragment) :
    (fragment.render doc newline).tail.dropLast =
      fragment.bodyLines.map fun text => fragment.lead doc ++ text ++ newline := by
  simp [render]

/-- Fragments have the same lines only if they are alike, and the lines between the tags are the
texts that make up the body, or an empty one where there are none. -/
theorem render_lossless (doc newline : Text) :
    (∀ first second : Fragment, 0 ≤ first.indent → 0 ≤ second.indent →
      (first.render doc newline = second.render doc newline ↔ first.Alike second)) ∧
    ∀ (fragment : Fragment) (texts : List Text), (∀ text ∈ texts, '\n' ∉ text) →
      fragment.body = join ['\n'] texts →
        (fragment.render doc newline).length = 2 + max 1 texts.length ∧
        (fragment.render doc newline).tail.dropLast =
          (if texts = [] then [[]] else texts).map fun text =>
            List.replicate fragment.indent.toNat ' ' ++ doc ++ [' '] ++ text ++ newline := by
  constructor
  · intro first second indented indented'
    exact ⟨alike_of_render_eq indented indented', Alike.render_eq⟩
  · intro fragment texts unbroken body
    have pieces := bodyLines_of_join unbroken body
    constructor
    · rw [length_render, pieces]
      cases texts with
      | nil => rfl
      | cons text texts =>
          rw [if_neg (List.cons_ne_nil text texts), List.length_cons]
          omega
    · rw [tail_dropLast_render, pieces]
      rfl

/-- A marker that is a space. Of the first two fragments the body lines are the same, as the one has
a space less in front of the marker and one more behind it; the tag lines are not. -/
theorem render_lossless_space :
    let doc := [' ']
    let newline := "\r\n".toList
    let outer : Fragment := { tag := "t".toList, body := " <\n ".toList, indent := 1 }
    let inner : Fragment := { tag := "t".toList, body := "<\n".toList, indent := 2 }
    let empty : Fragment := { inner with attr := some [] }
    outer.bodyLines.map (outer.lead doc ++ ·) = inner.bodyLines.map (inner.lead doc ++ ·) ∧
    outer.render doc newline ≠ inner.render doc newline ∧
    empty.render doc newline = inner.render doc newline ∧ empty.Alike inner ∧
    (inner.render doc newline).length = 4 ∧
    (inner.render doc newline).tail.dropLast = ["    <\r\n".toList, "    \r\n".toList] := by
  intro doc newline outer inner empty
  obtain ⟨faithful, written⟩ := render_lossless doc newline
  have outerIndented : 0 ≤ outer.indent := by decide
  have innerIndented : 0 ≤ inner.indent := by decide
  have emptyIndented : 0 ≤ empty.indent := by decide
  have same : empty.render doc newline = inner.render doc newline := by decide +kernel
  obtain ⟨count, lines⟩ := written inner ["<".toList, []] (by decide) rfl
  refine ⟨by decide +kernel, ?_, same, (faithful empty inner emptyIndented innerIndented).mp same,
    count, lines⟩
  intro equal
  have alike := (faithful outer inner outerIndented innerIndented).mp equal
  exact absurd alike.indent (by decide)

end Fragment

end Docblock

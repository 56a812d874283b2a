import Docblock.Proofs.Lines
import Mathlib.Data.List.Chain

namespace Docblock.Text

/-- A piece may stand in front of another: it has a line break, and this does not go on there. -/
structure Followed (piece next : Text) : Prop where
  ended : ∃ newline : Newline, piece = piece.stripBreak ++ newline.text
  apart : ¬(piece.getLast? = some '\r' ∧ next.head? = some '\n')

structure Divided (pieces : List Text) : Prop where
  nonempty : ∀ piece ∈ pieces, piece ≠ []
  unbroken : ∀ piece ∈ pieces, Unbroken piece.stripBreak
  ended : ∀ piece ∈ pieces,
    piece = piece.stripBreak ∨ ∃ newline : Newline, piece = piece.stripBreak ++ newline.text
  followed : pieces.IsChain Followed

theorem divided_nil : Divided [] :=
  ⟨by simp, by simp, by simp, .nil⟩

theorem divided_cons_iff {piece : Text} {pieces : List Text} :
    Divided (piece :: pieces) ↔
      piece ≠ [] ∧ Unbroken piece.stripBreak ∧ (∀ next ∈ pieces.head?, Followed piece next) ∧
        Divided pieces := by
  constructor
  · intro ⟨nonempty, unbroken, ended, followed⟩
    obtain ⟨filled, nonempty⟩ := List.forall_mem_cons.mp nonempty
    obtain ⟨body, unbroken⟩ := List.forall_mem_cons.mp unbroken
    obtain ⟨neighbour, followed⟩ := List.isChain_cons.mp followed
    exact ⟨filled, body, neighbour, nonempty, unbroken, (List.forall_mem_cons.mp ended).2, followed⟩
  · intro ⟨filled, body, neighbour, divided⟩
    exact ⟨List.forall_mem_cons.mpr ⟨filled, divided.nonempty⟩,
      List.forall_mem_cons.mpr ⟨body, divided.unbroken⟩,
      List.forall_mem_cons.mpr ⟨eq_stripBreak_append piece, divided.ended⟩,
      List.isChain_cons.mpr ⟨neighbour, divided.followed⟩⟩

theorem newline_text_ne_nil (newline : Newline) : newline.text ≠ [] := by
  cases newline <;> decide

theorem Lined.divided {pieces : List Text} (lined : Lined pieces) (apart : Apart pieces) :
    Divided pieces := by
  induction lined with
  | nil => exact divided_nil
  | last unbroken nonempty =>
      rw [divided_cons_iff, stripBreak_of_unbroken unbroken]
      exact ⟨nonempty, unbroken, by simp, divided_nil⟩
  | @cons body pieces newline unbroken rest induction =>
      rw [divided_cons_iff, stripBreak_append_newline unbroken]
      refine ⟨by simp [newline_text_ne_nil newline], unbroken, ?_, induction apart.2⟩
      intro next member
      refine ⟨⟨newline, by rw [stripBreak_append_newline unbroken]⟩, ?_⟩
      intro ⟨ends, starts⟩
      obtain ⟨others, rfl⟩ := List.head?_eq_some_iff.mp member
      obtain ⟨tail, rfl⟩ := List.head?_eq_some_iff.mp starts
      exact apart.1 ⟨ends, rfl⟩

theorem Divided.lined {pieces : List Text} (divided : Divided pieces) : Lined pieces := by
  induction pieces with
  | nil => exact .nil
  | cons piece pieces induction =>
      obtain ⟨filled, unbroken, neighbour, rest⟩ := divided_cons_iff.mp divided
      have ended : ∀ newline : Newline, piece = piece.stripBreak ++ newline.text →
          Lined (piece :: pieces) := by
        intro newline parts
        rw [parts]
        exact .cons newline unbroken (induction rest)
      cases pieces with
      | nil =>
          rcases divided.ended piece List.mem_cons_self with bare | ⟨newline, parts⟩
          · exact .last (bare ▸ unbroken) filled
          · exact ended newline parts
      | cons next pieces =>
          obtain ⟨newline, parts⟩ := (neighbour next rfl).ended
          exact ended newline parts

theorem Divided.apart {pieces : List Text} (divided : Divided pieces) : Apart pieces := by
  induction pieces with
  | nil => trivial
  | cons piece pieces induction =>
      obtain ⟨-, -, neighbour, rest⟩ := divided_cons_iff.mp divided
      refine ⟨?_, induction rest⟩
      cases pieces with
      | nil => simp
      | cons next pieces =>
          have filled : next ≠ [] := rest.nonempty next List.mem_cons_self
          rw [List.flatten_cons, List.head?_append_of_ne_nil _ filled]
          exact (neighbour next rfl).apart

/-- The lines of a text are pieces that make it up, and no other pieces that are lines do. -/
theorem lines_eq_iff_divided (text : Text) (pieces : List Text) :
    lines text = pieces ↔ pieces.flatten = text ∧ Divided pieces := by
  constructor
  · intro same
    rw [← same]
    exact ⟨flatten_lines text, (lined_lines text).divided (apart_lines text)⟩
  · intro ⟨whole, divided⟩
    rw [← whole]
    exact divided.lined.lines_flatten divided.apart

end Docblock.Text

import Docblock.Config
import Docblock.Line

namespace Docblock

namespace Text

def Unbroken (text : Text) : Prop :=
  ∀ c ∈ text, isBreak c = false

instance (text : Text) : Decidable (Unbroken text) :=
  List.decidableBAll (fun c => isBreak c = false) text

/-- A list of lines: each has a body without line breaks, and only the last may have no break at
its end. -/
inductive Lined : List Text → Prop
  | nil : Lined []
  | last {body : Text} (unbroken : Unbroken body) (nonempty : body ≠ []) : Lined [body]
  | cons {body : Text} {lines : List Text} (newline : Newline) (unbroken : Unbroken body)
      (rest : Lined lines) : Lined ((body ++ newline.text) :: lines)

/-- No line ends in CR before an LF. -/
def Apart : List Text → Prop
  | [] => True
  | line :: lines =>
      ¬(line.getLast? = some '\r' ∧ lines.flatten.head? = some '\n') ∧ Apart lines

theorem Unbroken.reverse {text : Text} (unbroken : Unbroken text) : Unbroken text.reverse :=
  fun c member => unbroken c (List.mem_reverse.mp member)

@[simp] theorem unbroken_nil : Unbroken [] := by
  intro c member
  cases member

@[simp] theorem unbroken_cons {c : Char} {text : Text} :
    Unbroken (c :: text) ↔ isBreak c = false ∧ Unbroken text :=
  List.forall_mem_cons

@[simp] theorem unbroken_append {first second : Text} :
    Unbroken (first ++ second) ↔ Unbroken first ∧ Unbroken second :=
  List.forall_mem_append

theorem flatten_linesFrom (current text : Text) :
    (linesFrom current text).flatten = current.reverse ++ text := by
  fun_induction linesFrom current text with
  | case1 current empty => simp_all
  | case2 current nonempty => simp
  | case3 current rest induction => simp [induction]
  | case4 current c rest _ _ induction => simp [induction]
  | case5 current c rest _ _ induction => simp [induction]

theorem flatten_lines (text : Text) : (lines text).flatten = text := by
  simpa [lines] using flatten_linesFrom [] text

theorem eq_newline_of_isBreak {c : Char} (isBreak : isBreak c = true) :
    ∃ newline : Newline, [c] = newline.text := by
  simp only [Text.isBreak, Bool.or_eq_true, beq_iff_eq] at isBreak
  rcases isBreak with rfl | rfl
  · exact ⟨.lf, rfl⟩
  · exact ⟨.cr, rfl⟩

theorem lined_linesFrom (current text : Text) (unbroken : Unbroken current) :
    Lined (linesFrom current text) := by
  fun_induction linesFrom current text with
  | case1 current empty => exact .nil
  | case2 current nonempty =>
      exact .last unbroken.reverse (by simpa using nonempty)
  | case3 current rest induction =>
      have line : ('\n' :: '\r' :: current).reverse = current.reverse ++ Newline.crlf.text := by
        simp [Newline.text]
      rw [line]
      exact .cons .crlf unbroken.reverse (induction unbroken_nil)
  | case4 current c rest _ isBreak induction =>
      obtain ⟨newline, text⟩ := eq_newline_of_isBreak isBreak
      rw [List.reverse_cons, text]
      exact .cons newline unbroken.reverse (induction unbroken_nil)
  | case5 current c rest _ noBreak induction =>
      exact induction (unbroken_cons.mpr ⟨by simpa using noBreak, unbroken⟩)

theorem lined_lines (text : Text) : Lined (lines text) :=
  lined_linesFrom [] text unbroken_nil

theorem apart_linesFrom (current text : Text) : Apart (linesFrom current text) := by
  fun_induction linesFrom current text with
  | case1 current empty => trivial
  | case2 current nonempty => simp [Apart]
  | case3 current rest induction => exact ⟨by simp, induction⟩
  | case4 current c rest single isBreak induction =>
      refine ⟨?_, induction⟩
      rintro ⟨ends, starts⟩
      obtain rfl : c = '\r' := by simpa using ends
      rw [flatten_linesFrom, List.reverse_nil, List.nil_append] at starts
      obtain ⟨tail, rest⟩ := List.head?_eq_some_iff.mp starts
      exact single tail rfl rest
  | case5 current c rest _ noBreak induction => exact induction

theorem apart_lines (text : Text) : Apart (lines text) :=
  apart_linesFrom [] text

theorem linesFrom_append (current body rest : Text) (unbroken : Unbroken body) :
    linesFrom current (body ++ rest) = linesFrom (body.reverse ++ current) rest := by
  induction body generalizing current with
  | nil => rfl
  | cons c body induction =>
      obtain ⟨noBreak, others⟩ := unbroken_cons.mp unbroken
      have plain : c ≠ '\r' := by
        rintro rfl
        exact absurd noBreak (by decide)
      have step : linesFrom current (c :: (body ++ rest)) =
          linesFrom (c :: current) (body ++ rest) := by
        rw [linesFrom.eq_3 _ _ _ fun _ isReturn => absurd isReturn plain]
        simp [noBreak]
      rw [List.cons_append, step, induction _ others, List.reverse_cons, List.append_assoc]
      rfl

theorem lines_of_unbroken {body : Text} (unbroken : Unbroken body) (nonempty : body ≠ []) :
    lines body = [body] := by
  have cut := linesFrom_append [] body [] unbroken
  rw [List.append_nil, List.append_nil] at cut
  rw [lines, cut, linesFrom]
  simp [nonempty]

theorem lines_append_newline {body : Text} (unbroken : Unbroken body) (newline : Newline)
    (rest : Text) (apart : ¬(newline = .cr ∧ rest.head? = some '\n')) :
    lines (body ++ newline.text ++ rest) = (body ++ newline.text) :: lines rest := by
  rw [lines, List.append_assoc, linesFrom_append _ _ _ unbroken, List.append_nil]
  cases newline with
  | lf => simp [Newline.text, linesFrom, isBreak, lines]
  | crlf => simp [Newline.text, linesFrom, lines]
  | cr =>
      have single : ∀ tail, '\r' = '\r' → rest = '\n' :: tail → False := by
        rintro tail - rfl
        exact apart ⟨rfl, rfl⟩
      simp [Newline.text, linesFrom.eq_3 _ _ _ single, isBreak, lines]

theorem getLast?_append_cr (body : Text) :
    (body ++ Newline.cr.text).getLast? = some '\r' := by
  simp [Newline.text]

/-- A list of lines in which no CR meets an LF is the list of lines of its text. -/
theorem Lined.lines_flatten {pieces : List Text} (lined : Lined pieces) (apart : Apart pieces) :
    lines pieces.flatten = pieces := by
  induction lined with
  | nil => rfl
  | last unbroken nonempty => simpa using lines_of_unbroken unbroken nonempty
  | @cons body pieces newline unbroken rest induction =>
      rw [List.flatten_cons, lines_append_newline unbroken, induction apart.2]
      rintro ⟨rfl, starts⟩
      exact apart.1 ⟨getLast?_append_cr body, starts⟩

theorem Lined.drop {pieces : List Text} (lined : Lined pieces) (count : Nat) :
    Lined (pieces.drop count) := by
  induction lined generalizing count with
  | nil => simpa using Lined.nil
  | last unbroken nonempty =>
      cases count with
      | zero => exact .last unbroken nonempty
      | succ count => simpa using Lined.nil
  | cons newline unbroken rest induction =>
      cases count with
      | zero => exact .cons newline unbroken rest
      | succ count => exact induction count

theorem Apart.drop {pieces : List Text} (apart : Apart pieces) (count : Nat) :
    Apart (pieces.drop count) := by
  induction pieces generalizing count with
  | nil => simpa using apart
  | cons piece pieces induction =>
      cases count with
      | zero => exact apart
      | succ count => exact induction apart.2 count

theorem lines_flatten_drop (text : Text) (count : Nat) :
    lines ((lines text).drop count).flatten = (lines text).drop count :=
  ((lined_lines text).drop count).lines_flatten ((apart_lines text).drop count)

theorem Lined.cons_cases {line : Text} {pieces : List Text} (lined : Lined (line :: pieces)) :
    (pieces = [] ∧ Unbroken line ∧ line ≠ []) ∨
      ∃ (body : Text) (newline : Newline),
        line = body ++ newline.text ∧ Unbroken body ∧ Lined pieces := by
  cases lined with
  | last unbroken nonempty => exact .inl ⟨rfl, unbroken, nonempty⟩
  | cons newline unbroken rest => exact .inr ⟨_, newline, rfl, unbroken, rest⟩

theorem Lined.eq_lf_of_head? {line : Text} {pieces : List Text} (lined : Lined (line :: pieces))
    (starts : line.head? = some '\n') : line = ['\n'] := by
  obtain ⟨rest, rfl⟩ := List.head?_eq_some_iff.mp starts
  rcases lined.cons_cases with ⟨-, unbroken, -⟩ | ⟨body, newline, line, unbroken, -⟩
  · exact absurd (unbroken_cons.mp unbroken).1 (by decide)
  · cases body with
    | nil => cases newline <;> simp_all [Newline.text]
    | cons c body =>
        obtain ⟨rfl, -⟩ := List.cons.inj line
        exact absurd (unbroken_cons.mp unbroken).1 (by decide)

theorem Lined.left {first second : List Text} (lined : Lined (first ++ second)) :
    Lined first := by
  induction first with
  | nil => exact .nil
  | cons line first induction =>
      rcases lined.cons_cases with
        ⟨alone, unbroken, nonempty⟩ | ⟨body, newline, rfl, unbroken, rest⟩
      · rw [(List.append_eq_nil_iff.mp alone).1]
        exact .last unbroken nonempty
      · exact .cons newline unbroken (induction rest)

theorem Lined.append {first second : List Text}
    (ended : ∀ line ∈ first, ∃ (body : Text) (newline : Newline),
      Unbroken body ∧ line = body ++ newline.text)
    (lined : Lined second) : Lined (first ++ second) := by
  induction first with
  | nil => exact lined
  | cons line first induction =>
      obtain ⟨body, newline, unbroken, rfl⟩ := ended line List.mem_cons_self
      exact .cons newline unbroken
        (induction fun other member => ended other (List.mem_cons_of_mem _ member))

theorem lines_lf (rest : Text) : lines ('\n' :: rest) = ['\n'] :: lines rest :=
  lines_append_newline unbroken_nil .lf rest fun both => by cases both.1

theorem lines_append_cr {body : Text} (unbroken : Unbroken body) (rest : Text) :
    lines (body ++ Newline.cr.text ++ '\n' :: rest) = (body ++ ['\r', '\n']) :: lines rest := by
  have joined := lines_append_newline unbroken .crlf rest fun both => by cases both.1
  simpa [Newline.text] using joined

/-- Lines in front of others change only where a CR meets an LF: then the line with the CR takes in
the LF. A property that survives this holds of all lines in front. -/
theorem Lined.exists_lines_append {holds : Text → Prop}
    (joined : ∀ body, holds (body ++ ['\r']) → holds (body ++ ['\r', '\n']))
    {first tail : List Text} (lined : Lined (first ++ tail)) (settled : lines tail.flatten = tail)
    (starts : tail.flatten.head? ≠ some '\n') (all : ∀ line ∈ first, holds line) :
    ∃ front, lines (first ++ tail).flatten = front ++ tail ∧ ∀ line ∈ front, holds line := by
  induction first with
  | nil => exact ⟨[], settled, fun _ member => absurd member List.not_mem_nil⟩
  | cons line first induction =>
      obtain ⟨holdsLine, holdsFirst⟩ := List.forall_mem_cons.mp all
      rcases lined.cons_cases with
        ⟨alone, unbroken, nonempty⟩ | ⟨body, newline, rfl, unbroken, rest⟩
      · obtain ⟨rfl, rfl⟩ := List.append_eq_nil_iff.mp alone
        exact ⟨[line], by simpa using lines_of_unbroken unbroken nonempty, by simpa using holdsLine⟩
      · obtain ⟨front, cut, holdsFront⟩ := induction rest holdsFirst
        rw [List.cons_append, List.flatten_cons]
        by_cases meets : newline = .cr ∧ (first ++ tail).flatten.head? = some '\n'
        · obtain ⟨rfl, meets⟩ := meets
          obtain ⟨after, text⟩ := List.head?_eq_some_iff.mp meets
          rw [text, lines_lf] at cut
          rw [text, lines_append_cr unbroken]
          -- The LF is a line of its own in front of the tail, which starts with none.
          cases front with
          | nil =>
              rw [List.nil_append] at cut
              exact absurd (by rw [← cut]; rfl) starts
          | cons head front =>
              obtain ⟨-, cut⟩ := List.cons.inj cut
              refine ⟨(body ++ ['\r', '\n']) :: front, by rw [cut]; rfl, ?_⟩
              exact List.forall_mem_cons.mpr
                ⟨joined body holdsLine, (List.forall_mem_cons.mp holdsFront).2⟩
        · refine ⟨(body ++ newline.text) :: front, ?_, List.forall_mem_cons.mpr
            ⟨holdsLine, holdsFront⟩⟩
          rw [lines_append_newline unbroken newline _ meets, cut]
          rfl

theorem stripBreak_of_unbroken {body : Text} (unbroken : Unbroken body) :
    stripBreak body = body := by
  have ends : ∀ c rest, body.reverse = c :: rest → isBreak c = false := by
    intro c rest reversed
    exact unbroken.reverse c (by rw [reversed]; exact List.mem_cons_self)
  unfold stripBreak
  split
  · exact absurd (ends _ _ ‹_›) (by decide)
  · exact absurd (ends _ _ ‹_›) (by decide)
  · exact absurd (ends _ _ ‹_›) (by decide)
  · rfl

theorem stripBreak_append_newline {body : Text} (unbroken : Unbroken body) (newline : Newline) :
    stripBreak (body ++ newline.text) = body := by
  cases newline with
  | lf =>
      have reversed : (body ++ Newline.lf.text).reverse = '\n' :: body.reverse := by
        simp [Newline.text]
      unfold stripBreak
      rw [reversed]
      cases ends : body.reverse with
      | nil => simpa using ends.symm
      | cons c rest =>
          have noBreak : isBreak c = false :=
            unbroken.reverse c (by rw [ends]; exact List.mem_cons_self)
          have plain : c ≠ '\r' := by
            rintro rfl
            exact absurd noBreak (by decide)
          have restored : (c :: rest).reverse = body := by rw [← ends, List.reverse_reverse]
          simpa [plain] using restored
  | crlf => simp [stripBreak, Newline.text]
  | cr => simp [stripBreak, Newline.text]

theorem eq_stripBreak_append (text : Text) :
    text = stripBreak text ∨ ∃ newline : Newline, text = stripBreak text ++ newline.text := by
  have restored : ∀ reversed, text.reverse = reversed → text = reversed.reverse := by
    intro reversed same
    rw [← same, List.reverse_reverse]
  unfold stripBreak
  split
  · rename_i rest reversed
    exact .inr ⟨.crlf, by simpa [Newline.text] using restored _ reversed⟩
  · rename_i rest _ reversed
    exact .inr ⟨.lf, by simpa [Newline.text] using restored _ reversed⟩
  · rename_i rest reversed
    exact .inr ⟨.cr, by simpa [Newline.text] using restored _ reversed⟩
  · exact .inl rfl

theorem Lined.unbroken_stripBreak {pieces : List Text} (lined : Lined pieces) :
    ∀ line ∈ pieces, Unbroken line.stripBreak := by
  induction lined with
  | nil => exact fun _ member => absurd member List.not_mem_nil
  | last unbroken nonempty =>
      intro line member
      rw [List.mem_singleton.mp member, stripBreak_of_unbroken unbroken]
      exact unbroken
  | cons newline unbroken rest induction =>
      intro line member
      rcases List.mem_cons.mp member with rfl | member
      · rw [stripBreak_append_newline unbroken]
        exact unbroken
      · exact induction line member

theorem allBlank_newline (newline : Newline) : ∀ c ∈ newline.text, isBlank c = true := by
  apply List.all_eq_true.mp
  cases newline <;> decide

theorem stripEnd_append_of_blank {blanks : Text} (blank : ∀ c ∈ blanks, isBlank c = true)
    (text : Text) : stripEnd (text ++ blanks) = stripEnd text := by
  rw [stripEnd, stripEnd, List.reverse_append, List.dropWhile_append_of_pos]
  intro c member
  exact blank c (List.mem_reverse.mp member)

theorem stripEnd_stripBreak (text : Text) : stripEnd (stripBreak text) = stripEnd text := by
  rcases eq_stripBreak_append text with same | ⟨newline, same⟩
  · rw [← same]
  · calc
      stripEnd (stripBreak text) = stripEnd (stripBreak text ++ newline.text) :=
        (stripEnd_append_of_blank (allBlank_newline newline) _).symm
      _ = stripEnd text := by rw [← same]

end Text

end Docblock

import Docblock.Proofs.Reachable

namespace Docblock

structure State.Alike (first second : State) : Prop where
  indent : first.indent = second.indent
  inComment : first.collector.inComment = second.collector.inComment
  texts : first.collector.block.map Line.text = second.collector.block.map Line.text

namespace State

variable {first second : State}

theorem Alike.refl (state : State) : state.Alike state :=
  ⟨rfl, rfl, rfl⟩

theorem Alike.texts_concat (alike : first.Alike second) (text : Text) (number other : Int) :
    (first.collector.block ++ [(⟨text, number⟩ : Line)]).map Line.text =
      (second.collector.block ++ [(⟨text, other⟩ : Line)]).map Line.text := by
  simp only [List.map_append, List.map_cons, List.map_nil, alike.texts]

theorem Alike.closeBlock (alike : first.Alike second) (config : Config) (next : Option Text) :
    (first.closeBlock config next).1.indent = (second.closeBlock config next).1.indent ∧
      (first.closeBlock config next).2.silent = (second.closeBlock config next).2.silent := by
  have width : first.widthBefore next = second.widthBefore next := by
    cases next with
    | none => exact alike.indent
    | some line => rfl
  have bodies : first.collector.block.map Line.body = second.collector.block.map Line.body := by
    have stripped := congrArg (List.map Text.stripBreak) alike.texts
    rw [List.map_map, List.map_map] at stripped
    exact stripped
  refine ⟨width, ?_⟩
  simp only [State.closeBlock, Yield.silent_append, Yield.silent_note, width,
    Section.readBlock_congr config _ bodies]

theorem Alike.step (alike : first.Alike second) (config : Config) (number other : Int)
    (text : Text) (next : Option Text) :
    (first.step config number text next).1.Alike (second.step config other text next).1 ∧
      (first.step config number text next).2.silent =
        (second.step config other text next).2.silent := by
  cases inside : first.collector.inComment || config.markers.opens text with
  | false =>
      obtain ⟨idle, plain⟩ := Bool.or_eq_false_iff.mp inside
      rw [step_copied config number text next first idle plain,
        step_copied config other text next second (alike.inComment ▸ idle) plain]
      exact ⟨⟨alike.indent, alike.inComment, alike.texts⟩, rfl⟩
  | true =>
      have inside' : (second.collector.inComment || config.markers.opens text) = true :=
        alike.inComment ▸ inside
      cases closes : config.markers.closes text with
      | true =>
          have left := step_closed config number text next first inside closes
          have right := step_closed config other text next second inside' closes
          have ended : (first.ended number text).Alike (second.ended other text) :=
            ⟨alike.indent, rfl, alike.texts_concat text number other⟩
          have closed := ended.closeBlock config next
          rw [left.1, right.1, left.2, right.2]
          exact ⟨⟨closed.1, rfl, rfl⟩, closed.2⟩
      | false =>
          have left := step_collected config number text next first inside closes
          have right := step_collected config other text next second inside' closes
          rw [left.1, right.1, left.2, right.2]
          exact ⟨⟨alike.indent, rfl, alike.texts_concat text number other⟩, rfl⟩

theorem Alike.feed (alike : first.Alike second) (config : Config) (number other : Int)
    (lines : List Text) :
    (first.feed config number lines).1.Alike (second.feed config other lines).1 ∧
      (first.feed config number lines).2.silent = (second.feed config other lines).2.silent := by
  induction lines generalizing first second number other with
  | nil => exact ⟨alike, rfl⟩
  | cons text texts induction =>
      obtain ⟨after, yield⟩ := alike.step config number other text texts.head?
      obtain ⟨final, rest⟩ := induction after (number + 1) (other + 1)
      rw [feed_cons, feed_cons, Yield.silent_append, Yield.silent_append, yield, rest]
      exact ⟨final, rfl⟩

theorem Alike.finish (alike : first.Alike second) (config : Config) (source : Option Path) :
    (first.finish config source).1.Alike (second.finish config source).1 ∧
      (first.finish config source).2.1.silent = (second.finish config source).2.1.silent ∧
      (first.finish config source).2.2.isSome = (second.finish config source).2.2.isSome := by
  have empty : first.collector.block.isEmpty = second.collector.block.isEmpty := by
    rw [← List.isEmpty_map, alike.texts, List.isEmpty_map]
  simp only [State.finish, empty]
  split
  · exact ⟨alike, rfl, rfl⟩
  · cases config.openTail with
    | error => exact ⟨⟨alike.indent, alike.inComment, alike.texts⟩, rfl, rfl⟩
    | flush =>
        refine ⟨⟨alike.indent, rfl, rfl⟩, ?_, rfl⟩
        simp only [Yield.silent, alike.texts]
    | drop => exact ⟨⟨alike.indent, rfl, rfl⟩, rfl, rfl⟩

/-- Only a line that closes a block looks at the line behind it. -/
theorem step_next (config : Config) (number : Int) (text : Text) (next other : Option Text)
    (state : State) (goesOn : (state.visit config number text next).event ≠ .close) :
    state.step config number text next = state.step config number text other := by
  simp only [State.step]
  split
  · rfl
  · rfl
  · rename_i closed
    exact absurd closed goesOn

theorem feed_append (config : Config) (number : Int) (front back : List Text) (state : State)
    (boundary : back = [] ∨
      ∀ visit ∈ (state.visits config number front).getLast?, visit.event ≠ .close) :
    state.feed config number (front ++ back) =
      (((state.feed config number front).1.feed config (number + front.length) back).1,
        (state.feed config number front).2 ++
          ((state.feed config number front).1.feed config (number + front.length) back).2) := by
  induction front generalizing number state with
  | nil => simp
  | cons text texts induction =>
      have here : state.step config number text (texts ++ back).head? =
          state.step config number text texts.head? := by
        cases texts with
        | cons next more => rfl
        | nil =>
            rcases boundary with rfl | goesOn
            · rfl
            · symm
              apply step_next
              exact goesOn _ rfl
      have later : back = [] ∨ ∀ visit ∈ ((state.step config number text texts.head?).1.visits
          config (number + 1) texts).getLast?, visit.event ≠ .close := by
        apply boundary.imp_right
        intro goesOn visit last
        apply goesOn
        rw [visits, List.getLast?_cons]
        exact congrArg (fun found => some (Option.getD found _)) last
      have position : number + 1 + (texts.length : Int) =
          number + ((text :: texts).length : Int) := by
        rw [List.length_cons]
        omega
      rw [List.cons_append, feed_cons, feed_cons, here, induction _ _ later, position,
        Yield.append_assoc]

theorem finish_settled (config : Config) (source : Option Path) (state : State)
    (settled : state.collector.block = [] ∨ config.openTail = .error) :
    (state.finish config source).1.Alike state ∧
      (state.finish config source).2.1.silent = ∅ := by
  simp only [State.finish]
  split
  · exact ⟨.refl state, rfl⟩
  · rename_i nonempty
    rcases settled with empty | error
    · exact absurd (List.isEmpty_iff.mpr empty) nonempty
    · rw [error]
      exact ⟨⟨rfl, rfl, rfl⟩, rfl⟩

end State

namespace Context

theorem silent_run (config : Config) (source : Option Path) (lines : List Text)
    (context : Context) :
    (context.run config source lines).1.yield.silent =
      context.yield.silent ++ ((context.state.feed config 1 lines).2.silent ++
        ((context.state.feed config 1 lines).1.finish config source).2.1.silent) := rfl

theorem state_run (config : Config) (source : Option Path) (lines : List Text)
    (context : Context) :
    (context.run config source lines).1.state =
      ((context.state.feed config 1 lines).1.finish config source).1 := rfl

theorem failure_run (config : Config) (source : Option Path) (lines : List Text)
    (context : Context) :
    (context.run config source lines).2 =
      ((context.state.feed config 1 lines).1.finish config source).2.2 := rfl

/-- Outcomes that differ in nothing but the numbers of lines and the memory of failed passes. -/
structure SameOutcome (first second : Context × Option Unclosed) : Prop where
  lines : first.1.yield.lines = second.1.yield.lines
  fragments : first.1.yield.fragments = second.1.yield.fragments
  blocks : first.1.yield.blocks = second.1.yield.blocks
  skippedReturns : first.1.yield.skippedReturns = second.1.yield.skippedReturns
  indent : first.1.state.indent = second.1.state.indent
  inComment : first.1.state.collector.inComment = second.1.state.collector.inComment
  pending : first.1.state.collector.block.map Line.text =
    second.1.state.collector.block.map Line.text
  failure : first.2.isSome = second.2.isSome

/-- Lines that come in two passes are converted as if they came in one. -/
theorem run_pieces (config : Config) (source : Option Path) (context : Context)
    (reachable : context.Reachable config source) (front back : List Text)
    (boundary : back = [] ∨
      ∀ visit ∈ (context.state.visits config 1 front).getLast?, visit.event ≠ .close)
    (settled : (context.state.feed config 1 front).1.collector.inComment = false ∨
      config.openTail = .error) :
    SameOutcome ((context.run config source front).1.run config source back)
      (context.run config source (front ++ back)) := by
  -- A sound state that is not in a comment holds no lines, so the first pass ends where it stands.
  have kept := settled.imp_left (reachable.sound.feed 1 front).block_eq_nil
  obtain ⟨stopped, nothing⟩ := State.finish_settled config source _ kept
  obtain ⟨resumed, fed⟩ := stopped.feed config 1 (1 + front.length) back
  obtain ⟨alike, tail, failure⟩ := resumed.finish config source
  have whole := State.feed_append config 1 front back context.state boundary
  have yield : ((context.run config source front).1.run config source back).1.yield.silent =
      (context.run config source (front ++ back)).1.yield.silent := by
    simp only [silent_run, state_run, whole, nothing, fed, tail, Yield.silent_append,
      Yield.append_empty, Yield.append_assoc]
  have state : ((context.run config source front).1.run config source back).1.state.Alike
      (context.run config source (front ++ back)).1.state := by
    rw [state_run, state_run, state_run, whole]
    exact alike
  refine ⟨?_, ?_, ?_, ?_, state.indent, state.inComment, state.texts, ?_⟩
  · have lines := congrArg Yield.lines yield
    exact lines
  · have fragments := congrArg Yield.fragments yield
    exact fragments
  · have blocks := congrArg Yield.blocks yield
    exact blocks
  · have skipped := congrArg Yield.skippedReturns yield
    exact skipped
  · rw [failure_run, failure_run, state_run, whole]
    exact failure

/-- A first piece that fails in the middle of a block, which the second piece closes. -/
theorem run_pieces_midway :
    let context := (Context.run {} none ["a\n".toList] {}).1
    let front := ["\x7b@@ Summary: s\n".toList]
    let back := ["t \x7d\n".toList, "  b\n".toList]
    context.Reachable {} none ∧
    (∀ visit ∈ (context.state.visits {} 1 front).getLast?, visit.event ≠ .close) ∧
    ({} : Config).openTail = .error ∧
    (context.run {} none front).2 = some ⟨1, none⟩ ∧
    SameOutcome ((context.run {} none front).1.run {} none back)
      (context.run {} none (front ++ back)) := by
  intro context front back
  have reachable : context.Reachable {} none := .run _ .fresh
  have boundary : ∀ visit ∈ (context.state.visits {} 1 front).getLast?, visit.event ≠ .close := by
    decide +kernel
  refine ⟨reachable, boundary, rfl, by decide +kernel, ?_⟩
  exact run_pieces {} none context reachable front back (.inr boundary) (.inr rfl)

end Context

end Docblock

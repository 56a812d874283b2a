import Docblock.Proofs.Lines
import Docblock.Proofs.Provenance
import Docblock.Proofs.Reachable
import Mathlib.Data.List.Forall2

namespace Docblock

structure Fragment.Mirrors (first second : Fragment) : Prop where
  tag : first.tag = second.tag
  attr : first.attr = second.attr
  indent : first.indent = second.indent
  body : first.attr = none → first.body = second.body
  turned : first.attr ≠ none → first.bodyLines = second.bodyLines.reverse

structure Config.Opposed (first second : Config) : Prop where
  markers : first.markers = second.markers
  sentinels : first.sentinels = second.sentinels
  tags : first.tags = second.tags
  newline : first.newline = second.newline
  openTail : first.openTail = second.openTail
  prepends : first.continuation = .prepend
  appends : second.continuation = .append

structure Yield.Mirrors (first second : Yield) : Prop where
  lines : first.lines.length = second.lines.length
  fragments : List.Forall₂ Fragment.Mirrors first.fragments second.fragments
  blocks : first.blocks = second.blocks
  skippedReturns : first.skippedReturns = second.skippedReturns

/-- The lines that a pass copies, each with its position in the output, of which the first
`written` lines are there already. -/
def State.copies (config : Config) (number : Int) (written : Nat) :
    List Text → State → List (Nat × Text)
  | [], _ => []
  | text :: texts, state =>
      let visit := state.visit config number text texts.head?
      let more := (state.step config number text texts.head?).2.lines.length
      let rest := copies config (number + 1) (written + more) texts visit.state
      if visit.event = .pass then (written, text) :: rest else rest

namespace Fragment

variable {first second : Fragment}

theorem mirrors_of_plain {fragment : Fragment} (plain : fragment.attr = none) :
    fragment.Mirrors fragment where
  tag := rfl
  attr := rfl
  indent := rfl
  body _ := rfl
  turned attributed := absurd plain attributed

theorem Mirrors.length_bodyLines (mirrors : first.Mirrors second) :
    first.bodyLines.length = second.bodyLines.length := by
  by_cases plain : first.attr = none
  · rw [bodyLines, bodyLines, mirrors.body plain]
  · rw [mirrors.turned plain, List.length_reverse]

theorem Mirrors.map_eq {β : Type} {f : Fragment → β}
    (same : ∀ {first second : Fragment}, first.Mirrors second → f first = f second)
    {fragments others : List Fragment} (mirrored : List.Forall₂ Mirrors fragments others) :
    fragments.map f = others.map f := by
  induction mirrored with
  | nil => rfl
  | cons head tail induction => rw [List.map_cons, List.map_cons, same head, induction]

theorem Mirrors.length_render {fragments others : List Fragment}
    (mirrored : List.Forall₂ Mirrors fragments others) (doc newline doc' newline' : Text) :
    (fragments.flatMap (render doc newline)).length =
      (others.flatMap (render doc' newline')).length := by
  induction mirrored with
  | nil => rfl
  | cons head tail induction =>
      rw [List.flatMap_cons, List.flatMap_cons, List.length_append, List.length_append,
        Fragment.length_render, Fragment.length_render, head.length_bodyLines, induction]

end Fragment

namespace Segment

variable {first second : Config}

theorem entries_turned (opposed : first.Opposed second) (items : List Text) :
    List.Forall₂
      (fun entry other => entry.name = other.name ∧
        entry.body = other.body.reverse ∧ other.body ≠ [])
      (entries first items) (entries second items) := by
  induction items with
  | nil => exact .nil
  | cons item items induction =>
      rw [entries, entries, opposed.sentinels, opposed.prepends, opposed.appends]
      cases item.cut? second.sentinels.separator with
      | none => exact induction
      | some parts =>
          refine .cons ⟨rfl, ?_, ?_⟩ induction
          · simp [entryBody, continued, opposed.sentinels]
          · simp [entryBody]

theorem entries_bodies (config : Config) {items : List Text}
    (unbroken : ∀ item ∈ items, Text.Over (· ≠ '\n') item) :
    ∀ entry ∈ entries config items, ∀ text ∈ entry.body, '\n' ∉ text := by
  intro entry member text inBody inside
  have drawn := (entries_over (by decide) unbroken member).2 text inBody
  exact drawn '\n' inside rfl

theorem fragments_mirrored (opposed : first.Opposed second) (indent : Int) (segment : Segment)
    (unbroken : ∀ item ∈ segment.items, Text.Over (· ≠ '\n') item) :
    List.Forall₂ Fragment.Mirrors (segment.fragments first indent)
      (segment.fragments second indent) := by
  obtain ⟨kind, items⟩ := segment
  cases kind with
  | outside => exact .nil
  | summary =>
      simp only [fragments, opposed.tags, opposed.sentinels]
      exact .cons (Fragment.mirrors_of_plain rfl) .nil
  | parameters =>
      simp only [fragments, opposed.tags]
      rw [List.forall₂_map_left_iff, List.forall₂_map_right_iff]
      have turned := (List.forall₂_and_left _ _).mpr
        ⟨entries_bodies first unbroken, entries_turned opposed items⟩
      apply turned.imp
      rintro entry other ⟨lacks, name, body, filled⟩
      have filled' : entry.body ≠ [] := by
        simpa [body] using filled
      have lacks' : ∀ text ∈ other.body, '\n' ∉ text := by
        intro text member
        apply lacks text
        simpa [body] using member
      refine ⟨rfl, by rw [name], rfl, ?_, ?_⟩
      · intro plain
        cases plain
      · intro _
        rw [Fragment.bodyLines, Fragment.bodyLines, Text.split_join filled' lacks,
          Text.split_join filled lacks', body]
  | returns =>
      have same : isSkipped first ⟨.returns, items⟩ = isSkipped second ⟨.returns, items⟩ := by
        rw [isSkipped, isSkipped, opposed.sentinels]
      simp only [fragments, same, opposed.tags]
      split
      · exact .nil
      · exact .cons (Fragment.mirrors_of_plain rfl) .nil

theorem ofBlock_opposed (opposed : first.Opposed second) (block : List Line) :
    ofBlock first block = ofBlock second block := by
  rw [ofBlock, ofBlock, cut_congr opposed.markers opposed.sentinels, opposed.markers]

theorem reading_mirrored (opposed : first.Opposed second) (indent : Int) {block : List Line}
    (unbroken : ∀ line ∈ block, Text.Over (· ≠ '\n') line.body) :
    List.Forall₂ Fragment.Mirrors (reading first indent block) (reading second indent block) := by
  rw [reading, reading, ofBlock_opposed opposed]
  have same : List.Forall₂
      (fun segment other => segment = other ∧
        ∀ item ∈ segment.items, Text.Over (· ≠ '\n') item)
      (ofBlock second block) (ofBlock second block) := by
    apply List.forall₂_same.mpr
    intro segment inCut
    refine ⟨rfl, ?_⟩
    intro item member
    obtain ⟨text, inTexts, included⟩ := cut_subset inCut member
    obtain ⟨line, inBlock, inBody⟩ := Section.texts_subset inTexts
    exact (unbroken line inBlock).subset (List.Subset.trans included inBody)
  apply List.rel_flatMap same
  rintro segment other ⟨rfl, drawn⟩
  exact fragments_mirrored opposed indent segment drawn

theorem skippedIn_opposed (opposed : first.Opposed second) (block : List Line) :
    skippedIn first block = skippedIn second block := by
  have same : isSkipped first = isSkipped second := by
    funext segment
    rw [isSkipped, isSkipped, opposed.sentinels]
  rw [skippedIn, skippedIn, ofBlock_opposed opposed, same]

end Segment

namespace Yield

variable {first second third fourth : Yield}

theorem Mirrors.append (front : first.Mirrors second) (back : third.Mirrors fourth) :
    (first ++ third).Mirrors (second ++ fourth) where
  lines := by
    rw [lines_append, lines_append, List.length_append, List.length_append, front.lines, back.lines]
  fragments := List.rel_append front.fragments back.fragments
  blocks := congrArg₂ (· + ·) front.blocks back.blocks
  skippedReturns := congrArg₂ (· + ·) front.skippedReturns back.skippedReturns

theorem mirrors_of_plain {yield : Yield} (plain : yield.fragments = []) : yield.Mirrors yield where
  lines := rfl
  fragments := by
    rw [plain]
    exact .nil
  blocks := rfl
  skippedReturns := rfl

theorem Mirrors.of_silent (mirrors : first.silent.Mirrors second.silent) : first.Mirrors second :=
  ⟨mirrors.lines, mirrors.fragments, mirrors.blocks, mirrors.skippedReturns⟩

end Yield

theorem Section.readBlock_mirrored {first second : Config} (opposed : first.Opposed second)
    (indent : Int) {block : List Line}
    (unbroken : ∀ line ∈ block, Text.Over (· ≠ '\n') line.body) :
    (readBlock first indent block).2.silent.Mirrors (readBlock second indent block).2.silent := by
  have mirrored := Segment.reading_mirrored opposed indent unbroken
  rw [silent_readBlock, silent_readBlock]
  refine ⟨?_, mirrored, rfl, Segment.skippedIn_opposed opposed block⟩
  exact Fragment.Mirrors.length_render mirrored _ _ _ _

namespace State

theorem visit_congr {first second : Config} (markers : first.markers = second.markers)
    (number : Int) (text : Text) (next : Option Text) (state : State) :
    state.visit first number text next = state.visit second number text next := by
  rw [visit, visit, markers]
  congr 1
  simp only [step, markers]
  split
  · rfl
  · rfl
  · simp only [closeBlock, Section.readBlock_fst]

variable {first second : Config} {state : State}

/-- No line of the block that a state holds has an LF inside. -/
def Unbroken (state : State) : Prop :=
  ∀ line ∈ state.collector.block, Text.Over (· ≠ '\n') line.body

theorem Unbroken.concat (unbroken : state.Unbroken) {text : Text}
    (body : Text.Over (· ≠ '\n') text.stripBreak) (number : Int) :
    ∀ line ∈ state.collector.block ++ [⟨text, number⟩], Text.Over (· ≠ '\n') line.body := by
  intro line member
  rcases List.mem_append.mp member with held | added
  · exact unbroken line held
  · rw [List.mem_singleton.mp added]
    exact body

theorem Unbroken.step (unbroken : state.Unbroken) {text : Text}
    (body : Text.Over (· ≠ '\n') text.stripBreak) (config : Config) (number : Int)
    (next : Option Text) : (state.step config number text next).1.Unbroken := by
  cases inside : state.collector.inComment || config.markers.opens text with
  | false =>
      obtain ⟨idle, plain⟩ := Bool.or_eq_false_iff.mp inside
      rw [step_copied config number text next state idle plain]
      exact unbroken
  | true =>
      cases closes : config.markers.closes text with
      | true =>
          rw [(step_closed config number text next state inside closes).1]
          intro line member
          cases member
      | false =>
          rw [(step_collected config number text next state inside closes).1]
          exact unbroken.concat body number

theorem Unbroken.step_mirrored (unbroken : state.Unbroken) (opposed : first.Opposed second)
    {text : Text} (body : Text.Over (· ≠ '\n') text.stripBreak) (number : Int)
    (next : Option Text) :
    (state.step first number text next).2.Mirrors (state.step second number text next).2 := by
  cases inside : state.collector.inComment || second.markers.opens text with
  | false =>
      obtain ⟨idle, plain⟩ := Bool.or_eq_false_iff.mp inside
      rw [step_copied second number text next state idle plain,
        step_copied first number text next state idle (opposed.markers ▸ plain)]
      exact Yield.mirrors_of_plain rfl
  | true =>
      have inside' := opposed.markers ▸ inside
      apply Yield.Mirrors.of_silent
      cases closes : second.markers.closes text with
      | true =>
          rw [(step_closed second number text next state inside closes).2,
            (step_closed first number text next state inside' (opposed.markers ▸ closes)).2]
          simp only [closeBlock, Yield.silent_append]
          apply Yield.Mirrors.append
          · apply Yield.Mirrors.append
            · exact Yield.mirrors_of_plain rfl
            · exact Section.readBlock_mirrored opposed _ (unbroken.concat body number)
          · exact Yield.mirrors_of_plain rfl
      | false =>
          rw [(step_collected second number text next state inside closes).2,
            (step_collected first number text next state inside' (opposed.markers ▸ closes)).2]
          exact Yield.mirrors_of_plain rfl

theorem Unbroken.feed_mirrored (unbroken : state.Unbroken) (opposed : first.Opposed second)
    (number : Int) {lines : List Text}
    (bodies : ∀ line ∈ lines, Text.Over (· ≠ '\n') line.stripBreak) :
    (state.feed first number lines).1 = (state.feed second number lines).1 ∧
    (state.feed first number lines).2.Mirrors (state.feed second number lines).2 ∧
    ∀ written,
      state.copies first number written lines = state.copies second number written lines := by
  induction lines generalizing number state with
  | nil =>
      refine ⟨rfl, Yield.mirrors_of_plain rfl, ?_⟩
      intro written
      rfl
  | cons text texts induction =>
      obtain ⟨body, others⟩ := List.forall_mem_cons.mp bodies
      have visit := visit_congr opposed.markers number text texts.head? state
      have next : (state.step first number text texts.head?).1 =
          (state.step second number text texts.head?).1 := congrArg Visit.state visit
      have yield := unbroken.step_mirrored opposed body number texts.head?
      obtain ⟨final, rest, copies⟩ :=
        induction (unbroken.step body second number texts.head?) (number + 1) others
      rw [feed_cons, feed_cons, next]
      refine ⟨final, yield.append rest, ?_⟩
      intro written
      have later : ∀ count,
          (state.visit second number text texts.head?).state.copies first (number + 1) count texts =
            (state.visit second number text texts.head?).state.copies second (number + 1) count
              texts := copies
      simp only [State.copies, visit, yield.lines, later]

theorem copies_stand (config : Config) (number : Int) (written : Nat) (lines : List Text)
    (state : State) :
    ∀ copy ∈ state.copies config number written lines,
      ∃ offset, copy.1 = written + offset ∧
        (state.feed config number lines).2.lines[offset]? = some copy.2 := by
  induction lines generalizing number written state with
  | nil =>
      intro copy member
      cases member
  | cons text texts induction =>
      intro copy member
      have later : copy ∈ (state.step config number text texts.head?).1.copies config (number + 1)
          (written + (state.step config number text texts.head?).2.lines.length) texts →
          ∃ offset, copy.1 = written + offset ∧
            (state.feed config number (text :: texts)).2.lines[offset]? = some copy.2 := by
        intro behind
        obtain ⟨offset, position, here⟩ := induction _ _ _ copy behind
        refine ⟨(state.step config number text texts.head?).2.lines.length + offset, ?_, ?_⟩
        · rw [position, Nat.add_assoc]
        · rw [feed_cons, Yield.lines_append, List.getElem?_append_right (Nat.le_add_right _ _),
            Nat.add_sub_cancel_left, here]
      rw [State.copies] at member
      split at member
      · rename_i passed
        rcases List.mem_cons.mp member with rfl | behind
        · obtain ⟨idle, plain⟩ := Collector.feed_pass_iff.mp passed
          refine ⟨0, rfl, ?_⟩
          rw [feed_cons, step_copied config number text texts.head? state idle plain]
          rfl
        · exact later behind
      · exact later member

end State

theorem copies_convertLines (config : Config) (source : Option Path) (lines : List Text) :
    ∀ copy ∈ State.copies config 1 0 lines {},
      (convertLines config source lines).1.yield.lines[copy.1]? = some copy.2 := by
  intro copy member
  obtain ⟨offset, position, here⟩ := State.copies_stand config 1 0 lines {} copy member
  obtain ⟨bound, -⟩ := List.getElem?_eq_some_iff.mp here
  have output : (convertLines config source lines).1.yield.lines =
      (State.feed config 1 lines {}).2.lines ++
        ((State.feed config 1 lines {}).1.finish config source).2.1.lines := rfl
  rw [position, Nat.zero_add, output, List.getElem?_append_left bound, here]

/-- The two orders of a parameter's text fail alike or succeed with the same counts. Fragment by
fragment they say the same, a parameter with its lines turned round, and they copy the same lines to
the same positions. -/
theorem convertText_continuation (config : Config) (source : Option Path) (text : Text) :
    let first := { config with continuation := .prepend }
    let second := { config with continuation := .append }
    let prepended := convertText first source text
    let appended := convertText second source text
    prepended.2 = appended.2 ∧
    prepended.1.stats = appended.1.stats ∧
    List.Forall₂ Fragment.Mirrors prepended.1.yield.fragments appended.1.yield.fragments ∧
    State.copies first 1 0 text.lines {} = State.copies second 1 0 text.lines {} ∧
    (∀ copy ∈ State.copies first 1 0 text.lines {},
      prepended.1.yield.lines[copy.1]? = some copy.2 ∧
      appended.1.yield.lines[copy.1]? = some copy.2) := by
  intro first second prepended appended
  have opposed : first.Opposed second := ⟨rfl, rfl, rfl, rfl, rfl, rfl, rfl⟩
  have bodies : ∀ line ∈ text.lines, Text.Over (· ≠ '\n') line.stripBreak := by
    intro line member c inside
    have unbroken := (Text.lined_lines text).unbroken_stripBreak line member c inside
    rintro rfl
    cases unbroken
  have fresh : ({} : State).Unbroken := by
    intro line member
    cases member
  obtain ⟨state, yield, copies⟩ := fresh.feed_mirrored opposed 1 bodies
  have ending : State.finish first source (State.feed first 1 text.lines {}).1 =
      State.finish second source (State.feed second 1 text.lines {}).1 := by
    rw [state]
    rfl
  have tail : (State.finish first source (State.feed first 1 text.lines {}).1).2.1.Mirrors
      (State.finish second source (State.feed second 1 text.lines {}).1).2.1 := by
    rw [ending]
    exact Yield.mirrors_of_plain (State.fragments_finish second source _)
  have mirrored : prepended.1.yield.Mirrors appended.1.yield := by
    apply Yield.Mirrors.append
    · exact Yield.mirrors_of_plain rfl
    · exact yield.append tail
  have left : prepended.1.state =
      (State.finish first source (State.feed first 1 text.lines {}).1).1 := rfl
  have right : appended.1.state =
      (State.finish second source (State.feed second 1 text.lines {}).1).1 := rfl
  refine ⟨congrArg (fun ended => ended.2.2) ending, ?_, mirrored.fragments, copies 0, ?_⟩
  · simp only [Context.stats, mirrored.lines, mirrored.blocks, mirrored.skippedReturns,
      Fragment.Mirrors.map_eq Fragment.Mirrors.tag mirrored.fragments, left, right, ending]
  · intro copy member
    refine ⟨copies_convertLines first source text.lines copy member, ?_⟩
    rw [copies 0] at member
    exact copies_convertLines second source text.lines copy member

end Docblock

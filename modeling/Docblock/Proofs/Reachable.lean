import Docblock.Proofs.Occurrence
import Docblock.Proofs.Scan

/-!
States that passes lead to. Between two lines a conversion is outside all sections, and the lines it
holds are those of a block that the first of them opens and none of them closes.
-/

namespace Docblock

/-- What one line of a pass does: the event, the lines collected when it has been fed, and the state
that it leaves. -/
structure Visit where
  event : Collector.Event
  block : List Line
  state : State
deriving DecidableEq, Repr

namespace State

def visit (config : Config) (number : Int) (text : Text) (next : Option Text) (state : State) :
    Visit :=
  let fed := state.collector.feed config.markers ⟨text, number⟩
  ⟨fed.2.1, fed.1.block, (state.step config number text next).1⟩

def visits (config : Config) (number : Int) : List Text → State → List Visit
  | [], _ => []
  | text :: texts, state =>
      let visit := state.visit config number text texts.head?
      visit :: visits config (number + 1) texts visit.state

end State

def Visit.fragments (config : Config) (visit : Visit) : List Fragment :=
  match visit.event with
  | .pass => []
  | .collect => []
  | .close => (Section.readBlock config visit.state.indent visit.block).2.fragments

/-- The contexts that passes with one configuration lead to, whether they fail or not. -/
inductive Context.Reachable (config : Config) (source : Option Path) : Context → Prop
  | fresh : Reachable config source {}
  | run {context : Context} (lines : List Text) (before : Reachable config source context) :
      Reachable config source (context.run config source lines).1

structure State.Sound (config : Config) (state : State) : Prop where
  inComment_iff : state.collector.inComment = true ↔ state.collector.block ≠ []
  opening : ∀ line ∈ state.collector.block.head?,
    config.markers.opening <:+: line.text ∧ ¬config.markers.lineComment <:+: line.text
  unclosed : ∀ line ∈ state.collector.block, config.markers.closes line.text = false
  outside : state.current = .outside

/-- A block from the line that opens it to the first line that closes it. -/
structure Markers.Whole (markers : Markers) (block : List Line) : Prop where
  nonempty : block ≠ []
  opens : ∀ line ∈ block.head?, markers.opens line.text = true
  closes : ∀ line ∈ block.getLast?, markers.closes line.text = true
  unclosed : ∀ line ∈ block.dropLast, markers.closes line.text = false

namespace Collector

variable {markers : Markers} {collector : Collector} {line : Line}

theorem feed_inside (inside : (collector.inComment || markers.opens line.text) = true) :
    (collector.feed markers line).1 =
        ⟨!markers.closes line.text, collector.block ++ [line]⟩ ∧
      (collector.feed markers line).2.1 =
        if markers.closes line.text then .close else .collect := by
  simp only [feed, inside, if_true, collect]
  cases markers.closes line.text with
  | true => exact ⟨rfl, rfl⟩
  | false => exact ⟨rfl, rfl⟩

theorem feed_close_iff :
    (collector.feed markers line).2.1 = .close ↔
      (collector.inComment || markers.opens line.text) = true ∧
        markers.closes line.text = true := by
  cases inside : collector.inComment || markers.opens line.text with
  | true =>
      rw [(feed_inside inside).2]
      cases markers.closes line.text <;> simp
  | false => simp [feed, inside]

end Collector

namespace State

variable {config : Config} {state : State}

theorem sound_fresh (config : Config) : ({} : State).Sound config where
  inComment_iff := by simp
  opening := by simp
  unclosed := by simp
  outside := rfl

theorem Sound.block_eq_nil (sound : state.Sound config)
    (idle : state.collector.inComment = false) : state.collector.block = [] := by
  cases held : state.collector.block with
  | nil => rfl
  | cons line lines =>
      have inside := sound.inComment_iff.mpr (by simp [held])
      rw [idle] at inside
      cases inside

theorem Sound.opening_concat (sound : state.Sound config) {line : Line}
    (inside : (state.collector.inComment || config.markers.opens line.text) = true) :
    ∀ first ∈ (state.collector.block ++ [line]).head?,
      config.markers.opening <:+: first.text ∧ ¬config.markers.lineComment <:+: first.text := by
  intro first member
  cases held : state.collector.block with
  | nil =>
      have idle : state.collector.inComment = false := by
        rw [← Bool.not_eq_true, sound.inComment_iff]
        exact not_not_intro held
      rw [held] at member
      obtain rfl : line = first := Option.some.inj member
      apply Markers.opens_iff.mp
      simpa [idle] using inside
  | cons head tail =>
      apply sound.opening
      rw [held] at member ⊢
      exact member

theorem Sound.step (sound : state.Sound config) (number : Int) (text : Text)
    (next : Option Text) : (state.step config number text next).1.Sound config := by
  cases inside : state.collector.inComment || config.markers.opens text with
  | false =>
      obtain ⟨idle, plain⟩ := Bool.or_eq_false_iff.mp inside
      rw [step_copied config number text next state idle plain]
      exact ⟨sound.inComment_iff, sound.opening, sound.unclosed, sound.outside⟩
  | true =>
      cases closes : config.markers.closes text with
      | true =>
          rw [(step_closed config number text next state inside closes).1]
          refine ⟨?_, ?_, ?_, Section.readBlock_fst config _ _⟩
          · simp [closeBlock, ended, Collector.clear]
          · simp [closeBlock, Collector.clear]
          · simp [closeBlock, Collector.clear]
      | false =>
          rw [(step_collected config number text next state inside closes).1]
          refine ⟨?_, sound.opening_concat inside, ?_, sound.outside⟩
          · simp [collected]
          · intro line member
            rcases List.mem_append.mp member with held | added
            · exact sound.unclosed line held
            · rw [List.mem_singleton.mp added]
              exact closes

theorem Sound.whole_of_close (sound : state.Sound config) {number : Int} {text : Text}
    {next : Option Text} (closed : (state.visit config number text next).event = .close) :
    config.markers.Whole (state.visit config number text next).block := by
  obtain ⟨inside, closes⟩ := Collector.feed_close_iff.mp closed
  have block : (state.visit config number text next).block =
      state.collector.block ++ [⟨text, number⟩] :=
    congrArg Collector.block (Collector.feed_inside inside).1
  rw [block]
  refine ⟨by simp, ?_, ?_, ?_⟩
  · intro first member
    exact Markers.opens_iff.mpr (sound.opening_concat inside first member)
  · intro last member
    rw [List.getLast?_concat] at member
    rw [← Option.some.inj member]
    exact closes
  · rw [List.dropLast_concat]
    exact sound.unclosed

theorem fragments_step (config : Config) (number : Int) (text : Text) (next : Option Text)
    (state : State) :
    (state.step config number text next).2.fragments =
      (state.visit config number text next).fragments config := by
  cases inside : state.collector.inComment || config.markers.opens text with
  | false => simp [Visit.fragments, visit, State.step, Collector.feed, inside]
  | true =>
      have fed : (state.collector.feed config.markers ⟨text, number⟩).1 = _ ∧ _ :=
        Collector.feed_inside inside
      cases closes : config.markers.closes text with
      | true =>
          have closed := step_closed config number text next state inside closes
          simp only [Visit.fragments, visit, fed, closes, if_true, closed.1]
          apply (congrArg Yield.fragments closed.2).trans
          simp [closeBlock, ended, Yield.silent, Yield.note]
      | false =>
          have collected := step_collected config number text next state inside closes
          simp only [Visit.fragments, visit, fed, closes]
          exact congrArg Yield.fragments collected.2

theorem Sound.feed (sound : state.Sound config) (number : Int) (lines : List Text) :
    (state.feed config number lines).1.Sound config := by
  induction lines generalizing number state with
  | nil => exact sound
  | cons text texts induction =>
      rw [feed_cons]
      exact induction (sound.step number text texts.head?) (number + 1)

theorem Sound.visits (sound : state.Sound config) (number : Int) (lines : List Text) :
    ∀ visit ∈ state.visits config number lines,
      visit.state.Sound config ∧ (visit.event = .close → config.markers.Whole visit.block) := by
  induction lines generalizing number state with
  | nil =>
      intro visit member
      cases member
  | cons text texts induction =>
      have after := sound.step number text texts.head?
      intro visit member
      rcases List.mem_cons.mp member with rfl | later
      · exact ⟨after, sound.whole_of_close⟩
      · exact induction after (number + 1) visit later

theorem fragments_feed (config : Config) (number : Int) (lines : List Text) (state : State) :
    (state.feed config number lines).2.fragments =
      (state.visits config number lines).flatMap (Visit.fragments config) := by
  induction lines generalizing number state with
  | nil => rfl
  | cons text texts induction =>
      rw [feed_cons, Yield.fragments_append, induction, fragments_step]
      rfl

theorem Sound.finish (sound : state.Sound config) (source : Option Path) :
    (state.finish config source).1.Sound config := by
  unfold State.finish
  split
  · exact sound
  · cases config.openTail with
    | error => exact ⟨sound.inComment_iff, sound.opening, sound.unclosed, sound.outside⟩
    | flush => exact { sound_fresh config with outside := sound.outside }
    | drop => exact { sound_fresh config with outside := sound.outside }

theorem finish_pending (config : Config) (source : Option Path) (state : State)
    (pending : (state.finish config source).1.collector.block ≠ []) :
    config.openTail = .error ∧ (state.finish config source).2.2 ≠ none := by
  simp only [State.finish] at pending ⊢
  split at pending
  · rename_i empty
    exact absurd (List.isEmpty_iff.mp empty) pending
  · rename_i nonempty
    rw [if_neg nonempty]
    cases policy : config.openTail with
    | error => simp
    | flush => simp [policy] at pending
    | drop => simp [policy] at pending

theorem fragments_finish (config : Config) (source : Option Path) (state : State) :
    (state.finish config source).2.1.fragments = [] := by
  unfold State.finish
  split
  · rfl
  · cases config.openTail with
    | error => rfl
    | flush => rfl
    | drop => rfl

end State

theorem Context.Reachable.sound {config : Config} {source : Option Path} {context : Context}
    (reachable : context.Reachable config source) : context.state.Sound config := by
  induction reachable with
  | fresh => exact State.sound_fresh config
  | run lines before induction => exact (induction.feed 1 lines).finish source

/-- A pass that is sound before its lines, after each of them and at its end. Lines are pending at
its end only if it has failed for them, and what it emits comes from whole blocks alone. -/
structure Context.SoundPass (config : Config) (source : Option Path) (lines : List Text)
    (context : Context) : Prop where
  before : context.state.Sound config
  along : ∀ visit ∈ context.state.visits config 1 lines, visit.state.Sound config
  after : (context.run config source lines).1.state.Sound config
  pending : (context.run config source lines).1.state.collector.block ≠ [] →
    config.openTail = .error ∧ (context.run config source lines).2 ≠ none
  whole : ∀ visit ∈ context.state.visits config 1 lines,
    visit.event = .close → config.markers.Whole visit.block
  fragments : (context.run config source lines).1.yield.fragments =
    context.yield.fragments ++
      (context.state.visits config 1 lines).flatMap (Visit.fragments config)

/-- Every pass is sound, whatever passes came before it and whether they failed or not. -/
theorem Context.every_pass_sound (config : Config) (source : Option Path) (context : Context)
    (reachable : context.Reachable config source) (lines : List Text) :
    context.SoundPass config source lines := by
  have sound := reachable.sound
  have along := sound.visits 1 lines
  have emitted : (context.run config source lines).1.yield.fragments =
      context.yield.fragments ++ ((context.state.feed config 1 lines).2.fragments ++
        ((context.state.feed config 1 lines).1.finish config source).2.1.fragments) := rfl
  refine ⟨sound, ?_, (reachable.run lines).sound, ?_, ?_, ?_⟩
  · intro visit member
    exact (along visit member).1
  · exact State.finish_pending config source _
  · intro visit member
    exact (along visit member).2
  · rw [emitted, State.fragments_finish, List.append_nil, State.fragments_feed]

/-- A block that one pass has failed for is closed by the next one. -/
theorem Context.every_pass_sound_resumed :
    let context := (Context.run {} none ["a\n".toList, "\x7b@@ Summary: s\n".toList] {}).1
    let lines := ["t \x7d\n".toList, "  b\n".toList]
    context.Reachable {} none ∧
    context.state.collector.block ≠ [] ∧
    (context.state.visits {} 1 lines).map Visit.event = [.close, .pass] ∧
    context.SoundPass {} none lines := by
  intro context lines
  have reachable : context.Reachable {} none := .run _ .fresh
  refine ⟨reachable, by decide +kernel, by decide +kernel, ?_⟩
  exact every_pass_sound {} none context reachable lines

end Docblock

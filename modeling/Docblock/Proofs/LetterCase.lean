import Docblock.Proofs.Accounting
import Mathlib.Data.List.Forall2

/-!
The case of letters. Every test that decides the section of a text looks at letters up to their
case, or at texts that have no letters.
-/

namespace Docblock

namespace Text

def lowered (text : Text) : Text :=
  text.map Char.toLower

/-- Texts that differ in the case of ASCII letters alone. -/
def Recased (first second : Text) : Prop :=
  lowered first = lowered second

instance (first second : Text) : Decidable (Recased first second) :=
  inferInstanceAs (Decidable (lowered first = lowered second))

def Unlettered (text : Text) : Prop :=
  ∀ c ∈ text, c.isAlpha = false

instance (text : Text) : Decidable (Unlettered text) :=
  List.decidableBAll (fun c : Char => c.isAlpha = false) text

theorem toLower_of_not_capital {c : Char} (other : ¬(65 ≤ c.toNat ∧ c.toNat ≤ 90)) :
    c.toLower = c :=
  dif_neg other

theorem apply_toLower {α : Type} (f : Char → α)
    (letters : ∀ index < 26, f (Char.ofNat (97 + index)) = f (Char.ofNat (65 + index))) (c : Char) :
    f c.toLower = f c := by
  by_cases capital : 65 ≤ c.toNat ∧ c.toNat ≤ 90
  · have lower : ∀ index < 26, (Char.ofNat (65 + index)).toLower = Char.ofNat (97 + index) := by
      decide
    have index : c.toNat - 65 < 26 := by omega
    have position : 65 + (c.toNat - 65) = c.toNat := by omega
    have same := lower _ index
    have value := letters _ index
    rw [position, Char.ofNat_toNat] at same value
    rw [same, value]
  · rw [toLower_of_not_capital capital]

theorem toLower_eq_iff {c d : Char} (unlettered : c.isAlpha = false) : d.toLower = c ↔ d = c := by
  have letters : ∀ index < 26, (Char.ofNat (97 + index)).isAlpha = true ∧
      (Char.ofNat (65 + index)).isAlpha = true := by decide
  have same := apply_toLower (fun d => d = c) ?_ d
  · exact iff_of_eq same
  · intro index bound
    have lower : Char.ofNat (97 + index) ≠ c := by
      intro equal
      rw [← equal, (letters index bound).1] at unlettered
      cases unlettered
    have upper : Char.ofNat (65 + index) ≠ c := by
      intro equal
      rw [← equal, (letters index bound).2] at unlettered
      cases unlettered
    simp [lower, upper]

@[simp] theorem isBlank_toLower (c : Char) : isBlank c.toLower = isBlank c :=
  apply_toLower isBlank (by decide) c

@[simp] theorem isCased_toLower (c : Char) : isCased c.toLower = isCased c :=
  apply_toLower isCased (by decide +kernel) c

@[simp] theorem isIgnorable_toLower (c : Char) : isIgnorable c.toLower = isIgnorable c :=
  apply_toLower isIgnorable (by decide +kernel) c

@[simp] theorem lowerChar_toLower (c : Char) : lowerChar c.toLower = lowerChar c :=
  apply_toLower lowerChar (by decide +kernel) c

@[simp] theorem fold_toLower (c : Char) : fold c.toLower = fold c := by
  rw [fold, lowerChar_toLower]
  rfl

@[simp] theorem toLower_toLower (c : Char) : c.toLower.toLower = c.toLower :=
  apply_toLower Char.toLower (by decide) c

@[simp] theorem lowered_nil : lowered [] = [] := rfl

@[simp] theorem lowered_cons (c : Char) (text : Text) :
    lowered (c :: text) = c.toLower :: lowered text := rfl

@[simp] theorem lowered_append (first second : Text) :
    lowered (first ++ second) = lowered first ++ lowered second :=
  List.map_append

@[simp] theorem length_lowered (text : Text) : (lowered text).length = text.length :=
  List.length_map _

@[simp] theorem isEmpty_lowered (text : Text) : (lowered text).isEmpty = text.isEmpty := by
  cases text <;> rfl

@[simp] theorem lowered_lowered (text : Text) : lowered (lowered text) = lowered text := by
  rw [lowered, lowered, List.map_map]
  congr 1
  funext c
  exact toLower_toLower c

theorem lowered_take (text : Text) (count : Nat) :
    lowered (text.take count) = (lowered text).take count :=
  List.map_take

theorem lowered_drop (text : Text) (count : Nat) :
    lowered (text.drop count) = (lowered text).drop count :=
  List.map_drop

theorem lowered_reverse (text : Text) : lowered text.reverse = (lowered text).reverse :=
  List.map_reverse

theorem isBlank_comp_toLower : isBlank ∘ Char.toLower = isBlank := by
  funext c
  exact isBlank_toLower c

@[simp] theorem allBlank_lowered (text : Text) : allBlank (lowered text) = allBlank text := by
  rw [allBlank, lowered, List.all_map, isBlank_comp_toLower]
  rfl

theorem stripStart_lowered (text : Text) : stripStart (lowered text) = lowered (stripStart text) := by
  rw [stripStart, lowered, List.dropWhile_map, isBlank_comp_toLower]
  rfl

theorem stripEnd_lowered (text : Text) : stripEnd (lowered text) = lowered (stripEnd text) := by
  have stripped := stripStart_lowered text.reverse
  rw [lowered_reverse] at stripped
  rw [stripEnd, ← stripStart, stripped, ← lowered_reverse]
  rfl

theorem strip_lowered (text : Text) : strip (lowered text) = lowered (strip text) := by
  rw [strip, stripStart_lowered, stripEnd_lowered]
  rfl

theorem stripBreak_lowered (text : Text) : stripBreak (lowered text) = lowered (stripBreak text) := by
  have feed : ∀ {d : Char}, d.toLower = '\n' ↔ d = '\n' := toLower_eq_iff (by decide)
  have ret : ∀ {d : Char}, d.toLower = '\r' ↔ d = '\r' := toLower_eq_iff (by decide)
  unfold stripBreak
  rw [← lowered_reverse]
  cases reversed : text.reverse with
  | nil => rfl
  | cons c rest =>
      by_cases isFeed : c = '\n'
      · subst isFeed
        cases rest with
        | nil => rfl
        | cons d rest =>
            by_cases isReturn : d = '\r'
            · subst isReturn
              exact (lowered_reverse rest).symm
            · have lower : d.toLower ≠ '\r' := mt ret.mp isReturn
              simp [isReturn, lower, lowered_reverse]
      · have noFeed : c.toLower ≠ '\n' := mt feed.mp isFeed
        by_cases isReturn : c = '\r'
        · subst isReturn
          simp [lowered_reverse]
        · have noReturn : c.toLower ≠ '\r' := mt ret.mp isReturn
          simp [isFeed, noFeed, isReturn, noReturn]

theorem lowered_join (texts : List Text) :
    lowered (join ['\n'] texts) = join ['\n'] (texts.map lowered) := by
  induction texts with
  | nil => rfl
  | cons text texts induction =>
      cases texts with
      | nil => rfl
      | cons second texts =>
          have parts : join ['\n'] (text :: second :: texts) =
              text ++ ['\n'] ++ join ['\n'] (second :: texts) := rfl
          rw [parts, lowered_append, lowered_append, induction]
          rfl

theorem split_lowered (text : Text) : split '\n' (lowered text) = (split '\n' text).map lowered := by
  induction text with
  | nil => rfl
  | cons c text induction =>
      have feed : c.toLower = '\n' ↔ c = '\n' := toLower_eq_iff (by decide)
      rw [lowered_cons, split, split, induction]
      by_cases isFeed : c = '\n'
      · rw [if_pos (feed.mpr isFeed), if_pos isFeed]
        rfl
      · rw [if_neg (mt feed.mp isFeed), if_neg isFeed]
        cases split '\n' text with
        | nil => rfl
        | cons piece pieces => rfl

theorem Recased.length_split {first second : Text} (recased : Recased first second) :
    (split '\n' first).length = (split '\n' second).length := by
  have pieces := congrArg (fun text => (split '\n' text).length) recased
  simp only [split_lowered, List.length_map] at pieces
  exact pieces

section Unlettered

variable {pattern : Text} (unlettered : Unlettered pattern)

include unlettered

theorem isPrefixOf_lowered (text : Text) :
    pattern.isPrefixOf (lowered text) = pattern.isPrefixOf text := by
  induction pattern generalizing text with
  | nil => rfl
  | cons c pattern induction =>
      obtain ⟨first, others⟩ := List.forall_mem_cons.mp unlettered
      cases text with
      | nil => rfl
      | cons d text =>
          have same : (c == d.toLower) = (c == d) := by
            rw [Bool.eq_iff_iff, beq_iff_eq, beq_iff_eq, eq_comm, toLower_eq_iff first, eq_comm]
          rw [lowered_cons, List.isPrefixOf, List.isPrefixOf, same, induction others]

theorem endsWith_lowered (text : Text) :
    (lowered text).endsWith pattern = text.endsWith pattern := by
  have backwards : Unlettered pattern.reverse := by
    intro c member
    exact unlettered c (List.mem_reverse.mp member)
  rw [endsWith, endsWith, List.isSuffixOf, List.isSuffixOf, ← lowered_reverse,
    isPrefixOf_lowered backwards]

theorem find?_lowered (text : Text) : find? pattern (lowered text) = find? pattern text := by
  induction text with
  | nil => rfl
  | cons c text induction =>
      have starts := isPrefixOf_lowered unlettered (c :: text)
      rw [lowered_cons] at starts ⊢
      rw [find?, find?, starts, induction]

theorem cut?_lowered (text : Text) :
    (lowered text).cut? pattern = (text.cut? pattern).map (Prod.map lowered lowered) := by
  rw [cut?, cut?, find?_lowered unlettered, Option.map_map]
  congr 1
  funext start
  exact Prod.ext (lowered_take text start).symm (lowered_drop text _).symm

theorem upTo_lowered (text : Text) : upTo pattern (lowered text) = lowered (upTo pattern text) := by
  rw [upTo, upTo, cut?_lowered unlettered]
  split
  · rfl
  · cases text.cut? pattern with
    | none => rfl
    | some parts => rfl

end Unlettered

theorem dropFrom_lowered (text : Text) (position : Int) :
    (lowered text).dropFrom position = lowered (text.dropFrom position) := by
  rw [dropFrom, dropFrom, length_lowered]
  split
  · exact (lowered_drop text _).symm
  · exact (lowered_drop text _).symm

theorem nextIsCased_lowered (text : Text) : nextIsCased (lowered text) = nextIsCased text := by
  have ignorable : isIgnorable ∘ Char.toLower = isIgnorable := by
    funext c
    exact isIgnorable_toLower c
  rw [nextIsCased, nextIsCased, lowered, List.dropWhile_map, ignorable]
  cases text.dropWhile isIgnorable with
  | nil => rfl
  | cons c rest => exact isCased_toLower c

theorem lowerAt_lowered (before : Text) (c : Char) (after : Text) :
    lowerAt (lowered before) c.toLower (lowered after) = lowerAt before c after := by
  have dotted : c.toLower = '\u0130' ↔ c = '\u0130' := toLower_eq_iff (by decide)
  have sigma : c.toLower = '\u03A3' ↔ c = '\u03A3' := toLower_eq_iff (by decide)
  rw [lowerAt, lowerAt, finalSigma, nextIsCased_lowered, nextIsCased_lowered, lowerChar_toLower,
    ← finalSigma]
  apply if_congr dotted rfl
  exact if_congr sigma rfl rfl

theorem lowerAfter_lowered (before text : Text) :
    lowerAfter (lowered before) (lowered text) = lowerAfter before text := by
  induction text generalizing before with
  | nil => rfl
  | cons c text induction =>
      have rest := induction (c :: before)
      rw [lowered_cons] at rest ⊢
      rw [lowerAfter, lowerAfter, lowerAt_lowered, rest]

@[simp] theorem lower_lowered (text : Text) : lower (lowered text) = lower text :=
  lowerAfter_lowered [] text

end Text

namespace Sentinel

open Text

variable {marker : Text} (unlettered : Unlettered marker)

theorem occurrence?_lowered (sentinel line : Text) :
    occurrence? sentinel (lowered line) = occurrence? sentinel line := by
  have folded : (lowered line).map fold = line.map fold := by
    rw [lowered, List.map_map]
    congr 1
    funext c
    exact fold_toLower c
  rw [occurrence?, occurrence?, folded]

include unlettered

theorem find?_lowered (line : Text) (sentinels : List Sentinel) :
    find? marker (lowered line) sentinels = find? marker line sentinels := by
  have same : match? marker (lowered line) = match? marker line := by
    funext sentinel
    simp only [match?, position?, occurrence?_lowered, shadowed, Text.find?_lowered unlettered]
  rw [find?, find?, same]

theorem remainder_lowered (line : Text) (found : Match) :
    found.remainder marker (lowered line) = lowered (found.remainder marker line) := by
  rw [Match.remainder, remainderFrom, dropFrom_lowered, upTo_lowered unlettered, strip_lowered]
  rfl

end Sentinel

/-- The texts of a configuration that are compared letter by letter have no letters. -/
structure Config.Unlettered (config : Config) : Prop where
  lineComment : Text.Unlettered config.markers.lineComment
  closing : Text.Unlettered config.markers.closing
  separator : Text.Unlettered config.sentinels.separator

def Entry.lowered (entry : Entry) : Entry :=
  ⟨Text.lowered entry.name, entry.body.map Text.lowered⟩

theorem Entry.extend_lowered (continuation : Continuation) (entry : Entry) (text : Text) :
    entry.lowered.extend continuation (Text.lowered text) =
      (entry.extend continuation text).lowered := by
  cases continuation with
  | prepend => rfl
  | append => simp [Entry.extend, Entry.lowered]

namespace Section

def lowered : Section → Section
  | .outside => .outside
  | .summary body => .summary (body.map Text.lowered)
  | .parameters pending => .parameters (pending.map Entry.lowered)
  | .returns body => .returns (body.map Text.lowered)

/-- The kinds of the sections that are open after each text of a block. -/
def states (config : Config) (indent : Int) : List Text → Section → List SectionKind
  | [], _ => []
  | text :: texts, current =>
      let next := (current.read config indent texts.isEmpty text).1
      next.kind :: states config indent texts next

def blockStates (config : Config) (indent : Int) (block : List Line) : List SectionKind :=
  states config indent (texts config.markers.closing block) .outside

@[simp] theorem kind_lowered (current : Section) : current.lowered.kind = current.kind := by
  cases current <;> rfl

theorem lowered_start (target : SectionKind) : (start target).lowered = start target := by
  cases target <;> rfl

theorem takesLast_lowered (text : Text) (current : Section) :
    current.lowered.takesLast (Text.lowered text) = current.takesLast text := by
  rw [takesLast, takesLast, Text.allBlank_lowered, kind_lowered]

theorem isHeading_lowered (config : Config) (text : Text) :
    isHeading config (Text.lowered text) = isHeading config text := by
  rw [isHeading, Text.strip_lowered, Text.lower_lowered]
  rfl

theorem sentinel?_lowered {config : Config} (unlettered : config.Unlettered) (text : Text) :
    sentinel? config (Text.lowered text) = sentinel? config text :=
  Sentinel.find?_lowered unlettered.lineComment text config.sectionSentinels

theorem take_lowered {config : Config} (unlettered : config.Unlettered) (indent : Int) (text : Text)
    (current : Section) :
    (current.lowered.take config indent (Text.lowered text)).1 =
      (current.take config indent text).1.lowered := by
  cases current with
  | outside => rfl
  | returns body => simp [take, lowered]
  | summary body =>
      simp only [take, lowered, isHeading_lowered]
      split
      · rfl
      · rw [List.map_append]
        rfl
  | parameters pending =>
      simp only [take, lowered, Text.cut?_lowered unlettered.separator]
      cases text.cut? config.sentinels.separator with
      | some parts =>
          simp [Entry.lowered, Text.strip_lowered]
      | none =>
          cases pending with
          | none => rfl
          | some entry => simp [Entry.extend_lowered]

theorem read_lowered {config : Config} (unlettered : config.Unlettered) (indent : Int)
    (last : Bool) (text : Text) (current : Section) :
    (current.lowered.read config indent last (Text.lowered text)).1 =
      (current.read config indent last text).1.lowered := by
  simp only [read, sentinel?_lowered unlettered]
  cases sentinel? config text with
  | none =>
      simp only [takesLast_lowered]
      split
      · exact take_lowered unlettered indent text current
      · rfl
  | some found =>
      simp only [Sentinel.remainder_lowered unlettered.lineComment, Text.isEmpty_lowered, enter]
      split
      · exact (lowered_start found.kind).symm
      · have taken := take_lowered unlettered indent
          (found.remainder config.markers.lineComment text) (start found.kind)
        rw [lowered_start] at taken
        exact taken

theorem states_lowered {config : Config} (unlettered : config.Unlettered) (indent : Int)
    (texts : List Text) (current : Section) :
    states config indent (texts.map Text.lowered) current.lowered =
      states config indent texts current := by
  induction texts generalizing current with
  | nil => rfl
  | cons text texts induction =>
      have next := read_lowered unlettered indent texts.isEmpty text current
      have rest := induction (current.read config indent texts.isEmpty text).1
      simp only [List.map_cons, states, List.isEmpty_map, next, kind_lowered, rest]

end Section

namespace Emission

/-- A fragment of a summary or of a parameter, which is emitted whatever its text says. -/
def isFirm (emission : Emission) : Bool :=
  emission.kind != .returns

/-- What does not depend on the case of letters in fragments other than return values. -/
def outline (emissions : List Emission) : List (SectionKind × Text) :=
  (emissions.filter isFirm).map fun emission =>
    (emission.kind, Text.lowered emission.fragment.body)

theorem outline_append (first second : List Emission) :
    outline (first ++ second) = outline first ++ outline second := by
  rw [outline, List.filter_append, List.map_append]
  rfl

structure Recased (first second : Emission) : Prop where
  kind : first.kind = second.kind
  body : Text.Recased first.fragment.body second.fragment.body
  bodyLines : first.fragment.bodyLines.length = second.fragment.bodyLines.length

theorem forall₂_of_outline {first second : List Emission} (same : outline first = outline second) :
    List.Forall₂ Recased (first.filter isFirm) (second.filter isFirm) := by
  rw [outline, outline, ← List.forall₂_eq_eq_eq, List.forall₂_map_left_iff,
    List.forall₂_map_right_iff] at same
  apply same.imp
  intro emission other equal
  obtain ⟨kind, body⟩ := Prod.mk.inj equal
  exact ⟨kind, body, Text.Recased.length_split body⟩

end Emission

namespace Section

open Emission

theorem outline_emit (config : Config) (fragment : Fragment) {kind : SectionKind}
    (firm : kind ≠ .returns) :
    outline ((Yield.emit config fragment).under kind) = [(kind, Text.lowered fragment.body)] := by
  have kept : isFirm ⟨kind, fragment⟩ = true := bne_iff_ne.mpr firm
  rw [Yield.under_emit, outline, List.filter_cons_of_pos kept]
  rfl

theorem outline_returns (yield : Yield) : outline (yield.under .returns) = [] := by
  rw [outline, Yield.under, List.filter_map]
  have none : isFirm ∘ Emission.mk .returns = fun _ => false := rfl
  rw [none, List.filter_false]
  rfl

theorem outline_of_fragments_eq_nil {yield : Yield} (none : yield.fragments = [])
    (kind : SectionKind) : outline (yield.under kind) = [] := by
  rw [Yield.under, none]
  rfl

theorem outline_flush_lowered (config : Config) (indent : Int) (pending : Option Entry) :
    outline ((flush config indent (pending.map Entry.lowered)).under .parameters) =
      outline ((flush config indent pending).under .parameters) := by
  cases pending with
  | none => rfl
  | some entry =>
      have parameters : SectionKind.parameters ≠ .returns := SectionKind.noConfusion
      rw [Option.map_some, flush, flush, outline_emit config _ parameters,
        outline_emit config _ parameters]
      simp only [Entry.fragment, Entry.lowered, ← Text.lowered_join, Text.lowered_lowered]

theorem outline_finish_lowered (config : Config) (indent : Int) (current : Section) :
    outline ((current.lowered.finish config indent).under current.kind) =
      outline ((current.finish config indent).under current.kind) := by
  cases current with
  | outside => rfl
  | summary body =>
      have summary : SectionKind.summary ≠ .returns := SectionKind.noConfusion
      rw [lowered, finish, finish, kind, outline_emit config _ summary,
        outline_emit config _ summary]
      simp only [summaryFragment, ← Text.lowered_join, Text.lowered_lowered]
  | parameters pending => exact outline_flush_lowered config indent pending
  | returns body => rw [kind, outline_returns, outline_returns]

theorem fragments_orphan (text : Text) : (orphan text).fragments = [] := by
  unfold orphan
  split <;> rfl

theorem outline_take_lowered {config : Config} (unlettered : config.Unlettered) (indent : Int)
    (text : Text) (current : Section) :
    outline ((current.lowered.take config indent (Text.lowered text)).2.under current.kind) =
      outline ((current.take config indent text).2.under current.kind) := by
  cases current with
  | outside => rfl
  | summary body => rfl
  | returns body => rfl
  | parameters pending =>
      simp only [take, lowered, Text.cut?_lowered unlettered.separator]
      cases text.cut? config.sentinels.separator with
      | some parts => exact outline_flush_lowered config indent pending
      | none =>
          cases pending with
          | some entry => rfl
          | none =>
              exact (outline_of_fragments_eq_nil (fragments_orphan _) _).trans
                (outline_of_fragments_eq_nil (fragments_orphan text) _).symm

theorem outline_opened_lowered {config : Config} (unlettered : config.Unlettered) (indent : Int)
    (kind : SectionKind) (rest : Text) :
    outline ((opened config indent kind (Text.lowered rest)).under kind) =
      outline ((opened config indent kind rest).under kind) := by
  rw [opened, opened, Text.isEmpty_lowered]
  split
  · rfl
  · have taken := outline_take_lowered unlettered indent rest (start kind)
    rw [lowered_start, kind_start] at taken
    exact taken

theorem outline_readEmissions_lowered {config : Config} (unlettered : config.Unlettered)
    (indent : Int) (last : Bool) (text : Text) (current : Section) :
    outline (readEmissions config indent last (Text.lowered text) current.lowered) =
      outline (readEmissions config indent last text current) := by
  cases active : sentinel? config text with
  | some found =>
      simp only [readEmissions, sentinel?_lowered unlettered, active, outline_append, kind_lowered,
        Sentinel.remainder_lowered unlettered.lineComment, outline_finish_lowered,
        outline_opened_lowered unlettered]
  | none =>
      have lowerActive := (sentinel?_lowered unlettered text).trans active
      simp only [readEmissions, read, lowerActive, active, takesLast_lowered,
        kind_lowered]
      split
      · exact outline_take_lowered unlettered indent text current
      · rfl

theorem outline_allEmissions_lowered {config : Config} (unlettered : config.Unlettered)
    (indent : Int) (texts : List Text) (current : Section) :
    outline (allEmissions config indent (texts.map Text.lowered) current.lowered) =
      outline (allEmissions config indent texts current) := by
  induction texts generalizing current with
  | nil =>
      rw [List.map_nil, allEmissions, allEmissions, kind_lowered]
      exact outline_finish_lowered config indent current
  | cons text texts induction =>
      rw [List.map_cons, allEmissions, allEmissions, outline_append, outline_append,
        List.isEmpty_map, outline_readEmissions_lowered unlettered,
        read_lowered unlettered, induction]

end Section

def Line.lowered (line : Line) : Line :=
  ⟨Text.lowered line.text, line.number⟩

theorem Line.body_lowered (line : Line) : line.lowered.body = Text.lowered line.body :=
  Text.stripBreak_lowered line.text

namespace Section

open Emission

theorem beforeClosing_lowered {closing : Text} (unlettered : Text.Unlettered closing)
    (text : Text) :
    beforeClosing closing (Text.lowered text) = Text.lowered (beforeClosing closing text) := by
  simp only [beforeClosing, Text.stripEnd_lowered, Text.endsWith_lowered unlettered,
    Text.length_lowered]
  by_cases ends : text.stripEnd.endsWith closing = true
  · rw [if_pos ends, if_pos ends, ← Text.lowered_take, Text.stripEnd_lowered]
  · rw [if_neg ends, if_neg ends]

theorem texts_lowered {closing : Text} (unlettered : Text.Unlettered closing)
    (block : List Line) :
    texts closing (block.map Line.lowered) = (texts closing block).map Text.lowered := by
  induction block with
  | nil => rfl
  | cons line lines induction =>
      cases lines with
      | nil =>
          rw [List.map_singleton, texts, Line.body_lowered, beforeClosing_lowered unlettered]
          rfl
      | cons next others =>
          simp only [List.map_cons, texts, Line.body_lowered] at induction ⊢
          rw [induction]

theorem lowered_texts_of_recased {closing : Text} (unlettered : Text.Unlettered closing)
    {first second : List Line}
    (recased : List.Forall₂ (fun line other => Text.Recased line.text other.text) first second) :
    (texts closing first).map Text.lowered = (texts closing second).map Text.lowered := by
  rw [← texts_lowered unlettered, ← texts_lowered unlettered]
  apply texts_congr
  rw [List.map_map, List.map_map]
  induction recased with
  | nil => rfl
  | @cons line other _ _ same others induction =>
      have body : line.lowered.body = other.lowered.body := congrArg Text.stripBreak same
      rw [List.map_cons, List.map_cons, induction, Function.comp_apply, Function.comp_apply, body]

theorem starts_lowered {config : Config} (unlettered : config.Unlettered) (kind : SectionKind)
    (text : Text) : starts config kind (Text.lowered text) = starts config kind text := by
  rw [starts, sentinel?_lowered unlettered]
  rfl

/-- Blocks that differ in the case of letters go through the same sections line by line. They emit
summaries and parameters of the same length in the same order, and as many return values, of which
one may say that there is none where the other does not. -/
theorem readBlock_recased (config : Config)
    (lineComment : Text.Unlettered config.markers.lineComment)
    (closing : Text.Unlettered config.markers.closing)
    (separator : Text.Unlettered config.sentinels.separator) (indent : Int)
    (first second : List Line)
    (recased : List.Forall₂ (fun line other => Text.Recased line.text other.text) first second) :
    blockStates config indent first = blockStates config indent second ∧
    (∀ block,
      (blockEmissions config indent block).map Emission.fragment =
        (readBlock config indent block).2.fragments ∧
      ∀ emission ∈ blockEmissions config indent block, emission.Tagged config) ∧
    List.Forall₂ Emission.Recased
      ((blockEmissions config indent first).filter Emission.isFirm)
      ((blockEmissions config indent second).filter Emission.isFirm) ∧
    (blockEmissions config indent first).countP (·.kind == .returns) +
        (readBlock config indent first).2.skippedReturns =
      (blockEmissions config indent second).countP (·.kind == .returns) +
        (readBlock config indent second).2.skippedReturns := by
  have unlettered : config.Unlettered := ⟨lineComment, closing, separator⟩
  have same := lowered_texts_of_recased closing recased
  refine ⟨?_, ?_, ?_, ?_⟩
  · rw [blockStates, blockStates, ← states_lowered unlettered, same, states_lowered unlettered]
  · intro block
    exact ⟨fragments_allEmissions _ .outside, tagged_allEmissions _ .outside⟩
  · apply forall₂_of_outline
    rw [blockEmissions, blockEmissions, ← outline_allEmissions_lowered unlettered, same,
      outline_allEmissions_lowered unlettered]
  · have counted : ∀ block,
        (blockEmissions config indent block).countP (·.kind == .returns) +
            (readBlock config indent block).2.skippedReturns =
          ((texts config.markers.closing block).map Text.lowered).countP
            (starts config .returns) := by
      intro block
      have settled : settled .returns (blockEmissions config indent block)
          (readBlock config indent block).2.skippedReturns = _ + _ :=
        settled_readAll (.inr rfl) (texts config.markers.closing block) .outside
      have same : starts config .returns ∘ Text.lowered = starts config .returns := by
        funext text
        exact starts_lowered unlettered .returns text
      rw [List.countP_map, same]
      exact settled.trans (Nat.zero_add _)
    rw [counted first, counted second, same]

/-- A return value that says there is none, and does not say so in other letters. -/
theorem readBlock_recased_none :
    let config : Config := {}
    let first : List Line := [⟨"\x7b@@ Summary: // x\n".toList, 1⟩, ⟨"description:\n".toList, 2⟩,
      ⟨"Returns:\n".toList, 3⟩, ⟨"  None.\n".toList, 4⟩, ⟨"\x7d".toList, 5⟩]
    let second : List Line := [⟨"\x7b@@ SUMMARY: // x\n".toList, 1⟩, ⟨"DescriptioN:\n".toList, 2⟩,
      ⟨"returns:\n".toList, 3⟩, ⟨"  NONE.\n".toList, 4⟩, ⟨"\x7d".toList, 5⟩]
    Text.Unlettered config.markers.lineComment ∧
    Text.Unlettered config.markers.closing ∧
    Text.Unlettered config.sentinels.separator ∧
    List.Forall₂ (fun line other => Text.Recased line.text other.text) first second ∧
    (readBlock config 0 first).2.skippedReturns = 1 ∧
    (readBlock config 0 second).2.skippedReturns = 0 ∧
    blockStates config 0 first = blockStates config 0 second ∧
    (∀ block,
      (blockEmissions config 0 block).map Emission.fragment =
        (readBlock config 0 block).2.fragments ∧
      ∀ emission ∈ blockEmissions config 0 block, emission.Tagged config) ∧
    List.Forall₂ Emission.Recased
      ((blockEmissions config 0 first).filter Emission.isFirm)
      ((blockEmissions config 0 second).filter Emission.isFirm) ∧
    (blockEmissions config 0 first).countP (·.kind == .returns) +
        (readBlock config 0 first).2.skippedReturns =
      (blockEmissions config 0 second).countP (·.kind == .returns) +
        (readBlock config 0 second).2.skippedReturns := by
  intro config first second
  have lineComment : Text.Unlettered config.markers.lineComment := by decide
  have closing : Text.Unlettered config.markers.closing := by decide
  have separator : Text.Unlettered config.sentinels.separator := by decide
  have recased : List.Forall₂ (fun line other => Text.Recased line.text other.text)
      first second :=
    .cons (by decide) (.cons (by decide) (.cons (by decide) (.cons (by decide)
      (.cons (by decide) .nil))))
  have skipped : (readBlock config 0 first).2.skippedReturns = 1 := by decide +kernel
  have emitted : (readBlock config 0 second).2.skippedReturns = 0 := by decide +kernel
  refine ⟨lineComment, closing, separator, recased, skipped, emitted, ?_⟩
  exact readBlock_recased config lineComment closing separator 0 first second recased

end Section

end Docblock

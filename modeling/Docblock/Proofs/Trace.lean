import Docblock.Proofs.Scan
import Mathlib.Data.List.Basic

/-!
The log of a conversion. The records of a block stand together: its opening, its closing, its width,
and those of its reading, in which a switch leads from each section to the next.
-/

namespace Docblock

namespace Record

def switch? : Record → Option (SectionKind × SectionKind)
  | .switched source target => some (source, target)
  | _ => none

def emitted? : Record → Option Fragment
  | .emitted fragment => some fragment
  | _ => none

def isWarning (record : Record) : Bool :=
  record.level == .warning

def isInner : Record → Bool
  | .emitted _ => true
  | .noValue => true
  | .orphan _ => true
  | _ => false

def isReading (record : Record) : Bool :=
  record.isInner || record.switch?.isSome

end Record

/-- Switches that lead from a section to a section, each starting where the one before ended. -/
def SectionKind.Linked : SectionKind → List (SectionKind × SectionKind) → SectionKind → Prop
  | first, [], last => first = last
  | first, (source, target) :: switches, last => first = source ∧ Linked target switches last

/-- The texts of a parameter segment that stand in front of its first parameter, but for blanks. -/
def Segment.orphans (config : Config) (segment : Segment) : List Text :=
  match segment.kind with
  | .parameters => (continued config segment.items).filter fun item => !item.allBlank
  | _ => []

/-- A stretch in a section. Its log has the fragments that are emitted, and its warnings are the
texts that no parameter takes in. -/
structure Yield.Told (orphans : List Text) (yield : Yield) : Prop where
  inner : ∀ record ∈ yield.log, record.isInner = true
  emitted : yield.log.filterMap Record.emitted? = yield.fragments
  warnings : yield.log.filter Record.isWarning = orphans.map fun text => .orphan text.strip

namespace Yield

theorem told_empty : (∅ : Yield).Told [] :=
  ⟨by simp, rfl, rfl⟩

theorem told_emit (config : Config) (fragment : Fragment) : (emit config fragment).Told [] :=
  ⟨by simp [emit, Record.isInner], rfl, rfl⟩

theorem Told.append {first second : Yield} {orphans others : List Text}
    (front : first.Told orphans) (back : second.Told others) :
    (first ++ second).Told (orphans ++ others) where
  inner := by
    rw [log_append]
    exact List.forall_mem_append.mpr ⟨front.inner, back.inner⟩
  emitted := by
    rw [log_append, List.filterMap_append, front.emitted, back.emitted, fragments_append]
  warnings := by
    rw [log_append, List.filter_append, front.warnings, back.warnings, List.map_append]

theorem Told.switches {yield : Yield} {orphans : List Text} (told : yield.Told orphans) :
    yield.log.filterMap Record.switch? = [] := by
  rw [List.filterMap_eq_nil_iff]
  intro record member
  have inner := told.inner record member
  cases record <;> first | rfl | cases inner

end Yield

namespace Section

open Segment

variable (config : Config) (indent : Int)

/-- The items that a section takes in without a parameter that they belong to. -/
def unclaimed (items : List Text) : Section → List Text
  | .parameters none => (continued config items).filter fun item => !item.allBlank
  | _ => []

theorem unclaimed_start (segment : Segment) :
    unclaimed config segment.items (start segment.kind) = segment.orphans config := by
  obtain ⟨kind, items⟩ := segment
  cases kind <;> rfl

theorem told_flush (pending : Option Entry) : (flush config indent pending).Told [] := by
  cases pending with
  | none => exact Yield.told_empty
  | some entry => exact Yield.told_emit config _

theorem told_finish (current : Section) : (current.finish config indent).Told [] := by
  cases current with
  | outside => exact Yield.told_empty
  | summary body => exact Yield.told_emit config _
  | parameters pending => exact told_flush config indent pending
  | returns body =>
      rw [finish]
      split
      · exact ⟨by simp [Record.isInner], rfl, rfl⟩
      · exact Yield.told_emit config _

theorem told_orphan (text : Text) :
    (orphan text).Told ([text].filter fun item => !item.allBlank) := by
  unfold orphan
  cases blank : text.allBlank with
  | true => simpa [blank] using Yield.told_empty
  | false =>
      rw [if_neg Bool.false_ne_true, List.filter_cons_of_pos (by simp [blank])]
      exact ⟨by simp [Yield.note, Record.isInner], rfl, rfl⟩

theorem told_take (text : Text) (current : Section) :
    (current.take config indent text).2.Told (unclaimed config [text] current) := by
  cases current with
  | outside => exact Yield.told_empty
  | summary body => exact Yield.told_empty
  | returns body => exact Yield.told_empty
  | parameters pending =>
      have holds := Text.isSome_cut? text config.sentinels.separator
      cases found : text.cut? config.sentinels.separator with
      | some parts =>
          rw [found] at holds
          simp only [take, found]
          cases pending with
          | none => simpa [unclaimed, continued, ← holds] using told_flush config indent none
          | some entry => exact told_flush config indent (some entry)
      | none =>
          rw [found] at holds
          simp only [take, found]
          cases pending with
          | none => simpa [unclaimed, continued, ← holds] using told_orphan text
          | some entry => exact Yield.told_empty

theorem unclaimed_cons (text : Text) (items : List Text) (current : Section) :
    unclaimed config (text :: items) current =
      unclaimed config [text] current ++
        unclaimed config items (current.take config indent text).1 := by
  cases current with
  | outside => rfl
  | summary body => rfl
  | returns body => rfl
  | parameters pending =>
      have holds := Text.isSome_cut? text config.sentinels.separator
      cases found : text.cut? config.sentinels.separator with
      | some parts =>
          rw [found] at holds
          cases pending with
          | none => simp [unclaimed, take, found, continued, ← holds]
          | some entry => simp [unclaimed, take, found]
      | none =>
          rw [found] at holds
          cases pending with
          | none =>
              have goesOn : continued config (text :: items) = [text] ++ continued config items := by
                simp [continued, ← holds]
              have alone : continued config [text] = [text] := by simp [continued, ← holds]
              simp only [unclaimed, take, found]
              rw [goesOn, List.filter_append, alone]
          | some entry => simp [unclaimed, take, found]

theorem told_settle (items : List Text) (current : Section) :
    (settle config indent items current).Told (unclaimed config items current) := by
  induction items generalizing current with
  | nil =>
      have nothing : unclaimed config [] current = [] := by
        unfold unclaimed
        split <;> rfl
      rw [nothing]
      exact told_finish config indent current
  | cons item items induction =>
      rw [settle, unclaimed_cons config indent]
      exact (told_take config indent item current).append (induction _)

end Section

structure Segment.Told (config : Config) (kind : SectionKind) (segments : List Segment)
    (yield : Yield) : Prop where
  reading : ∀ record ∈ yield.log, record.isReading = true
  chained : kind.Linked (yield.log.filterMap Record.switch?) .outside
  switches : (yield.log.filterMap Record.switch?).length = segments.length + 1
  emitted : yield.log.filterMap Record.emitted? = yield.fragments
  warnings : yield.log.filter Record.isWarning =
    (segments.flatMap (orphans config)).map fun text => .orphan text.strip

namespace Segment

theorem told_sequel (config : Config) (indent : Int) (kind : SectionKind)
    (segments : List Segment) :
    Told config kind segments (Section.sequel config indent kind segments) := by
  induction segments generalizing kind with
  | nil =>
      exact ⟨by simp [Section.sequel, Yield.note, Record.isReading, Record.switch?], ⟨rfl, rfl⟩, rfl,
        rfl, rfl⟩
  | cons segment segments induction =>
      have items := Section.told_settle config indent segment.items (Section.start segment.kind)
      have rest := induction segment.kind
      rw [Section.unclaimed_start] at items
      have log : (Section.sequel config indent kind (segment :: segments)).log =
          .switched kind segment.kind ::
            (Section.settle config indent segment.items (Section.start segment.kind)).log ++
              (Section.sequel config indent segment.kind segments).log := rfl
      have switches : (Section.sequel config indent kind (segment :: segments)).log.filterMap
          Record.switch? = (kind, segment.kind) ::
            (Section.sequel config indent segment.kind segments).log.filterMap Record.switch? := by
        rw [log, List.cons_append, List.filterMap_cons, List.filterMap_append, items.switches]
        rfl
      refine ⟨?_, ?_, ?_, ?_, ?_⟩
      · rw [log]
        intro record member
        rcases List.mem_cons.mp member with rfl | inside
        · rfl
        · rcases List.mem_append.mp inside with inItems | inRest
          · rw [Record.isReading, items.inner record inItems, Bool.true_or]
          · exact rest.reading record inRest
      · rw [switches]
        exact ⟨rfl, rest.chained⟩
      · rw [switches, List.length_cons, rest.switches, List.length_cons]
      · rw [log, List.cons_append, List.filterMap_cons, List.filterMap_append, items.emitted,
          rest.emitted]
        rfl
      · rw [log, List.cons_append, List.filter_cons_of_neg Bool.false_ne_true, List.filter_append,
          items.warnings, rest.warnings, List.flatMap_cons, List.map_append]

theorem length_cut (config : Config) (texts : List Text) :
    (cut config texts).length = texts.countP fun text => (Section.sentinel? config text).isSome := by
  induction texts with
  | nil => rfl
  | cons text texts induction =>
      rw [cut, List.countP_cons, ← induction]
      cases Section.sentinel? config text with
      | none => rfl
      | some found => rfl

theorem told_readBlock (config : Config) (indent : Int) (block : List Line) :
    Told config .outside (ofBlock config block) (Section.readBlock config indent block).2 := by
  rw [Section.readBlock, Section.readAll_settle, Section.settle_outside, Yield.empty_append]
  exact told_sequel config indent .outside _

end Segment

/-- The records of a block that is closed. -/
structure Passage where
  first : Int
  last : Int
  count : Nat
  width : Int
  reading : List Record
deriving DecidableEq, Repr

namespace Passage

def records (passage : Passage) : List Record :=
  .opened passage.first :: .closed passage.last passage.count ::
    .indentation passage.first passage.width :: passage.reading

theorem emitted_records (passage : Passage) :
    passage.records.filterMap Record.emitted? = passage.reading.filterMap Record.emitted? := rfl

theorem warnings_records (passage : Passage) :
    passage.records.filter Record.isWarning = passage.reading.filter Record.isWarning := rfl

def ofBlock (config : Config) (width : Int) (block : List Line) : Passage :=
  let first := (block.head?.map Line.number).getD 0
  { first
    last := first + block.length - 1
    count := block.length
    width
    reading := (Section.readBlock config width block).2.log }

theorem ofBlock_numbered (config : Config) (width number : Int) (text : Text)
    (texts : List Text) :
    ofBlock config width (Line.numbered number (text :: texts)) =
      { first := number
        last := number + texts.length
        count := texts.length + 1
        width
        reading :=
          (Section.readBlock config width (Line.numbered number (text :: texts))).2.log } := by
  have first : ((Line.numbered number (text :: texts)).head?.map Line.number).getD 0 = number := rfl
  have last : number + ((texts.length + 1 : Nat) : Int) - 1 = number + texts.length := by omega
  simp only [ofBlock, first, Line.length_numbered, List.length_cons, last]

def block (number : Int) (lines : List Text) (passage : Passage) : List Line :=
  Line.numbered passage.first ((lines.drop (passage.first - number).toNat).take passage.count)

def orphans (config : Config) (lines : List Text) (passage : Passage) : List Text :=
  (Segment.ofBlock config (passage.block 1 lines)).flatMap (Segment.orphans config)

end Passage

def Piece.passage? (config : Config) : Piece → Option Passage
  | .copied _ => none
  | .block width lines => some (.ofBlock config width lines)

namespace OpenTail

def records : OpenTail → Int → List Record
  | .error, _ => []
  | .flush, line => [.tailCopied line]
  | .drop, line => [.tailDropped line]

theorem emitted_records (policy : OpenTail) (line : Int) :
    (policy.records line).filterMap Record.emitted? = [] := by
  cases policy with
  | error => rfl
  | flush => rfl
  | drop => rfl

theorem warnings_records (policy : OpenTail) (line : Int) :
    (policy.records line).filter Record.isWarning = policy.records line := by
  cases policy with
  | error => rfl
  | flush => rfl
  | drop => rfl

end OpenTail

namespace Scan

def passages (config : Config) (scan : Scan) : List Passage :=
  scan.pieces.filterMap (Piece.passage? config)

def unmatched (scan : Scan) : Option Int :=
  scan.tail.head?.map Line.number

theorem isSome_unmatched (scan : Scan) : scan.unmatched.isSome = !scan.tail.isEmpty := by
  rw [unmatched]
  cases scan.tail <;> rfl

theorem passages_cons (config : Config) (piece : Piece) (scan : Scan) :
    (scan.cons piece).passages config = (piece.passage? config).toList ++ scan.passages config := by
  cases piece <;> rfl

theorem unmatched_cons (piece : Piece) (scan : Scan) :
    (scan.cons piece).unmatched = scan.unmatched := rfl

end Scan

namespace State

theorem log_closeBlock (config : Config) (next : Option Text) (state : State) :
    (state.closeBlock config next).2.log =
      .indentation state.collector.openedAt (state.widthBefore next) ::
        (Section.readBlock config (state.widthBefore next) state.collector.block).2.log := by
  simp [closeBlock, Yield.note]

theorem log_opening {state : State} (idle : state.collector = {}) (number : Int) :
    (state.opening number).log = [.opened number] := by
  rw [opening, idle]
  rfl

/-- A pass that starts outside a block tells of the blocks that it closes, one after another, and of
the opening of the one that it leaves open. -/
theorem log_feed (config : Config) (number : Int) (lines : List Text) (state : State)
    (idle : state.collector = {}) :
    (state.feed config number lines).2.log =
      ((config.markers.scan number state.indent lines).passages config).flatMap Passage.records ++
        (config.markers.scan number state.indent lines).unmatched.toList.map Record.opened := by
  generalize start : state.indent = width
  fun_induction Markers.scan config.markers number width lines generalizing state with
  | case1 number width => rfl
  | case2 number width line rest opens unclosed =>
      have goesOn := List.findIdx?_eq_none_iff.mp unclosed
      have fed := feed_open config number line rest state (by simp [opens]) goesOn
      rw [fed.2.2.2, log_opening idle]
      rfl
  | case3 number width line rest opens last found width' induction =>
      obtain ⟨full, collector, indent, -, -, yield⟩ :=
        feed_block config number line rest last state (by simp [opens]) found
      have width : full.widthBefore (rest.drop last).head? = width' := by
        rw [widthBefore_head?, indent, start]
      have block : full.collector.block =
          Line.numbered number ((line :: rest).take (last + 1)) := by
        rw [collector, idle]
        rfl
      -- Behind the line that closes the block, the pass is outside a block again.
      have fed := induction (full.closeBlock config (rest.drop last).head?).1
        (by simp [closeBlock, collector, Collector.clear]) width
      obtain ⟨inside, -⟩ := List.findIdx?_eq_some_iff_getElem.mp found
      have short : (rest.take last).length = last := by
        rw [List.length_take]
        exact Nat.min_eq_left (Nat.lt_succ_iff.mp inside)
      have length : full.collector.block.length = last + 1 := by
        rw [block, Line.length_numbered, List.take_succ_cons, List.length_cons, short]
      have openedAt : full.collector.openedAt = number := by
        rw [Collector.openedAt, block]
        rfl
      have passage := Passage.ofBlock_numbered config width' number line (rest.take last)
      rw [short, ← List.take_succ_cons] at passage
      rw [yield, Yield.log_append, Yield.log_append, Yield.log_append, log_opening idle,
        log_closeBlock, width, fed, Scan.passages_cons, Scan.unmatched_cons, Piece.passage?,
        Option.toList_some, List.flatMap_append, List.flatMap_singleton, passage, openedAt, length,
        block]
      simp [Passage.records, Yield.note]
  | case4 number width line rest plain induction =>
      have step := step_copied config number line rest.head? state (by simp [idle])
        (by simpa using plain)
      rw [feed_cons, step, Scan.passages_cons, Scan.unmatched_cons]
      exact induction { state with lineNumber := number } idle start

end State

structure Passage.Placed (config : Config) (number : Int) (lines : List Text) (passage : Passage) :
    Prop where
  starts : number ≤ passage.first
  filled : passage.first ≤ passage.last
  ends : passage.last < number + lines.length
  counted : (passage.count : Int) = passage.last - passage.first + 1
  read : passage.reading =
    (Section.readBlock config passage.width (passage.block number lines)).2.log

namespace Passage

theorem placed_ofBlock (config : Config) (width number : Int) (line : Text) (rest : List Text)
    (last : Nat) (inside : last ≤ rest.length) :
    (ofBlock config width (Line.numbered number ((line :: rest).take (last + 1)))).Placed config
        number (line :: rest) ∧
      (ofBlock config width (Line.numbered number ((line :: rest).take (last + 1)))).last =
        number + last := by
  have length : (rest.take last).length = last := by rw [List.length_take, Nat.min_eq_left inside]
  rw [List.take_succ_cons, ofBlock_numbered, length]
  refine ⟨⟨Int.le_refl number, ?_, ?_, ?_, ?_⟩, rfl⟩
  · exact Int.le_add_of_nonneg_right (Int.natCast_nonneg last)
  · change number + (last : Int) < number + ((rest.length + 1 : Nat) : Int)
    omega
  · change ((last + 1 : Nat) : Int) = number + last - number + 1
    omega
  · rw [block, Int.sub_self]
    rfl

theorem Placed.later {config : Config} {number : Int} {lines : List Text} {passage : Passage}
    (skipped : Nat) (short : skipped ≤ lines.length)
    (placed : passage.Placed config (number + skipped) (lines.drop skipped)) :
    passage.Placed config number lines := by
  have starts := placed.starts
  have ends := placed.ends
  rw [List.length_drop] at ends
  have offset : skipped + (passage.first - (number + skipped)).toNat =
      (passage.first - number).toNat := by
    omega
  have same : passage.block (number + skipped) (lines.drop skipped) =
      passage.block number lines := by
    rw [block, block, List.drop_drop, offset]
  refine ⟨by omega, placed.filled, by omega, placed.counted, ?_⟩
  rw [← same]
  exact placed.read

end Passage

/-- The passages of a source that starts with line `number`, one behind the other, and all of them
in front of the open tail. -/
structure Scan.Ordered (config : Config) (number : Int) (lines : List Text) (scan : Scan) :
    Prop where
  placed : ∀ passage ∈ scan.passages config, passage.Placed config number lines
  ordered : (scan.passages config).Pairwise fun earlier later => earlier.last < later.first
  starts : ∀ line ∈ scan.unmatched, number ≤ line
  behind : ∀ line ∈ scan.unmatched, ∀ passage ∈ scan.passages config, passage.last < line

theorem Scan.Ordered.cons {config : Config} {number : Int} {lines : List Text} {scan : Scan}
    {piece : Piece} (skipped : Nat) (short : skipped ≤ lines.length)
    (own : ∀ passage ∈ piece.passage? config,
      passage.Placed config number lines ∧ passage.last < number + skipped)
    (rest : scan.Ordered config (number + skipped) (lines.drop skipped)) :
    (scan.cons piece).Ordered config number lines := by
  refine ⟨?_, ?_, ?_, ?_⟩
  · intro passage member
    rw [passages_cons, List.mem_append, Option.mem_toList] at member
    rcases member with first | later
    · exact (own passage first).1
    · exact (rest.placed passage later).later skipped short
  · rw [passages_cons, List.pairwise_append]
    refine ⟨?_, rest.ordered, ?_⟩
    · cases piece.passage? config <;> simp
    · intro earlier first later member
      have before := (own earlier (Option.mem_toList.mp first)).2
      have behind := (rest.placed later member).starts
      omega
  · intro line found
    have behind := rest.starts line found
    omega
  · intro line found passage member
    rw [passages_cons, List.mem_append, Option.mem_toList] at member
    rcases member with first | later
    · have before := (own passage first).2
      have behind := rest.starts line found
      omega
    · exact rest.behind line found passage later

theorem Markers.ordered_scan (config : Config) (number width : Int) (lines : List Text) :
    (config.markers.scan number width lines).Ordered config number lines := by
  fun_induction Markers.scan config.markers number width lines with
  | case1 number width =>
      exact ⟨by simp [Scan.passages], List.Pairwise.nil, by simp [Scan.unmatched],
        by simp [Scan.passages]⟩
  | case2 number width line rest opens unclosed =>
      refine ⟨by simp [Scan.passages], List.Pairwise.nil, ?_, by simp [Scan.passages]⟩
      intro position found
      cases found
      exact Int.le_refl number
  | case3 number width line rest opens last found width' induction =>
      obtain ⟨inside, -⟩ := List.findIdx?_eq_some_iff_getElem.mp found
      have own := Passage.placed_ofBlock config width' number line rest last
        (Nat.lt_succ_iff.mp inside)
      have next : number + last + 1 = number + ((last + 1 : Nat) : Int) := by omega
      -- The block takes up `last + 1` lines, so all that follows starts behind its last line.
      rw [next] at induction ⊢
      apply Scan.Ordered.cons (last + 1) inside
      · intro passage member
        cases member
        exact ⟨own.1, by omega⟩
      · exact induction
  | case4 number width line rest plain induction =>
      apply Scan.Ordered.cons 1 (by simp)
      · intro passage member
        cases member
      · exact induction

namespace Scan

theorem length_passages (config : Config) (scan : Scan) :
    (scan.passages config).length = scan.blocks := by
  rw [passages, List.length_filterMap_eq_countP, blocks]
  congr 1
  funext piece
  cases piece <;> rfl

theorem emitted_passages (config : Config) (scan : Scan) :
    ((scan.passages config).flatMap Passage.records).filterMap Record.emitted? =
      scan.fragments config := by
  rw [List.filterMap_flatMap, passages, List.filterMap_eq_flatMap_toList (Piece.passage? config),
    List.flatMap_assoc, fragments]
  apply List.flatMap_congr
  intro piece member
  cases piece with
  | copied text => rfl
  | block width lines =>
      rw [Piece.passage?, Option.toList_some, List.flatMap_singleton, Passage.emitted_records]
      exact (Segment.told_readBlock config width lines).emitted

end Scan

theorem State.log_finish (config : Config) (source : Option Path) (scan : Scan) (state : State)
    (collector : state.collector = ⟨!scan.tail.isEmpty, scan.tail⟩) :
    (state.finish config source).2.1.log =
      scan.unmatched.toList.flatMap config.openTail.records := by
  cases tail : scan.tail with
  | nil => simp [finish, collector, tail, Scan.unmatched]
  | cons line rest =>
      simp only [finish, collector, tail, Scan.unmatched, List.isEmpty_cons, Bool.false_eq_true,
        if_false]
      cases config.openTail with
      | error => rfl
      | flush => rfl
      | drop => rfl

theorem log_convertLines (config : Config) (source : Option Path) (lines : List Text) :
    (convertLines config source lines).1.yield.log =
      let scan := config.markers.scan 1 0 lines
      (scan.passages config).flatMap Passage.records ++ scan.unmatched.toList.map Record.opened ++
        scan.unmatched.toList.flatMap config.openTail.records := by
  have follows := State.feed_follows config 1 lines {} rfl
  have fed := State.log_feed config 1 lines {} rfl
  have finished := State.log_finish config source _ _ follows.collector
  calc (convertLines config source lines).1.yield.log
      = (State.feed config 1 lines {}).2.log ++
          ((State.feed config 1 lines {}).1.finish config source).2.1.log := by
        simp [convertLines, Context.run, State.run]
    _ = _ := by rw [fed, finished]

structure Passage.Faithful (config : Config) (lines : List Text) (passage : Passage) : Prop where
  inside : 1 ≤ passage.first ∧ passage.first ≤ passage.last ∧ passage.last ≤ lines.length
  counted : (passage.count : Int) = passage.last - passage.first + 1
  reading : ∀ record ∈ passage.reading, record.isReading = true
  chained : SectionKind.Linked .outside (passage.reading.filterMap Record.switch?) .outside
  switches : (passage.reading.filterMap Record.switch?).length =
    (Section.texts config.markers.closing (passage.block 1 lines)).countP
      (fun text => (Section.sentinel? config text).isSome) + 1

namespace Passage

variable {config : Config} {lines : List Text} {passage : Passage}

theorem Placed.faithful (placed : passage.Placed config 1 lines) :
    passage.Faithful config lines := by
  have told := Segment.told_readBlock config passage.width (passage.block 1 lines)
  have ends := placed.ends
  refine ⟨⟨placed.starts, placed.filled, by omega⟩, placed.counted, ?_, ?_, ?_⟩
  · rw [placed.read]
    exact told.reading
  · rw [placed.read]
    exact told.chained
  · rw [placed.read, told.switches, Segment.ofBlock, Segment.length_cut]

theorem Placed.warnings (placed : passage.Placed config 1 lines) :
    passage.records.filter Record.isWarning =
      (passage.orphans config lines).map fun text => .orphan text.strip := by
  have told := Segment.told_readBlock config passage.width (passage.block 1 lines)
  rw [warnings_records, placed.read, told.warnings, orphans]

end Passage

theorem Scan.Ordered.warnings {config : Config} {lines : List Text} {scan : Scan}
    (ordered : scan.Ordered config 1 lines) :
    ((scan.passages config).flatMap Passage.records).filter Record.isWarning =
      ((scan.passages config).flatMap (Passage.orphans config lines)).map
        fun text => .orphan text.strip := by
  rw [List.filter_flatMap, List.map_flatMap]
  apply List.flatMap_congr
  intro passage member
  exact (ordered.placed passage member).warnings

/-- A log that tells of a conversion block by block, up to its open tail. -/
structure Context.Traced (config : Config) (lines : List Text) (passages : List Passage)
    (unmatched : Option Int) (context : Context) : Prop where
  log : context.yield.log =
    passages.flatMap Passage.records ++ unmatched.toList.map Record.opened ++
      unmatched.toList.flatMap config.openTail.records
  faithful : ∀ passage ∈ passages, passage.Faithful config lines
  ordered : passages.Pairwise fun earlier later => earlier.last < later.first
  behind : ∀ line ∈ unmatched, ∀ passage ∈ passages, passage.last < line
  blocks : passages.length = context.stats.blocks
  unterminated : unmatched.isSome = context.stats.unterminated
  emitted : context.yield.log.filterMap Record.emitted? = context.yield.fragments
  warnings : context.yield.log.filter Record.isWarning =
    (passages.flatMap (Passage.orphans config lines)).map (fun text => .orphan text.strip) ++
      unmatched.toList.flatMap config.openTail.records

/-- The log of every conversion is a trace of the blocks of its source. -/
theorem convertLines_traced (config : Config) (source : Option Path) (lines : List Text) :
    let scan := config.markers.scan 1 0 lines
    (convertLines config source lines).1.Traced config lines (scan.passages config)
      scan.unmatched := by
  intro scan
  have log := log_convertLines config source lines
  have ordered : scan.Ordered config 1 lines := Markers.ordered_scan config 1 0 lines
  refine ⟨log, ?_, ordered.ordered, ordered.behind, ?_, ?_, ?_, ?_⟩
  · intro passage member
    exact (ordered.placed passage member).faithful
  · rw [stats_convertLines]
    exact congrArg Nat.cast (scan.length_passages config)
  · rw [stats_convertLines]
    exact scan.isSome_unmatched
  · rw [log, fragments_convertLines, List.filterMap_append, List.filterMap_append,
      Scan.emitted_passages]
    cases scan.unmatched with
    | none => simp
    | some line => simp [Record.emitted?, OpenTail.emitted_records]
  · rw [log, List.filter_append, List.filter_append, ordered.warnings]
    cases scan.unmatched with
    | none => simp
    | some line =>
        simp [Record.isWarning, Record.level, OpenTail.warnings_records]

end Docblock

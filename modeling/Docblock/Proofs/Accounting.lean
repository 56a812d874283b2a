import Docblock.Proofs.Scan
import Mathlib.Algebra.GroupWithZero.Nat

namespace Docblock

namespace Stats

theorem lookup_filter_ne {text first : Text} (other : text ≠ first) (entries : List (Text × Int)) :
    (entries.filter (·.1 != first)).lookup text = entries.lookup text := by
  induction entries with
  | nil => rfl
  | cons entry entries induction =>
      obtain ⟨key, count⟩ := entry
      by_cases dropped : key = first
      · subst dropped
        rw [List.filter_cons_of_neg (by simp), induction, List.lookup_cons,
          beq_eq_false_iff_ne.mpr other]
      · rw [List.filter_cons_of_pos (by simpa using dropped), List.lookup_cons, List.lookup_cons,
          induction]

theorem lookup_tally (texts : List Text) (text : Text) :
    (tally texts).lookup text = if text ∈ texts then some (texts.count text : Int) else none := by
  induction texts with
  | nil => rfl
  | cons first texts induction =>
      rw [tally, List.lookup_cons]
      by_cases same : text = first
      · subst same
        simp [Int.add_comm]
      · rw [beq_eq_false_iff_ne.mpr same]
        simp only [lookup_filter_ne same, induction, List.mem_cons, same, false_or,
          List.count_cons_of_ne (Ne.symm same)]

theorem pairwise_tally (texts : List Text) :
    ((tally texts).map Prod.fst).Pairwise fun first second =>
      texts.idxOf first < texts.idxOf second := by
  induction texts with
  | nil => exact .nil
  | cons first texts induction =>
      have later : ∀ text, text ≠ first → (first :: texts).idxOf text = texts.idxOf text + 1 := by
        intro text other
        rw [List.idxOf_cons, beq_eq_false_iff_ne.mpr (Ne.symm other)]
        rfl
      have keys : ((tally texts).filter (·.1 != first)).map Prod.fst =
          ((tally texts).map Prod.fst).filter (· != first) := by
        rw [List.filter_map]
        rfl
      rw [tally, List.map_cons, keys, List.pairwise_cons]
      constructor
      · intro text member
        have other : text ≠ first := by simpa using (List.mem_filter.mp member).2
        rw [later text other, List.idxOf_cons_self]
        exact Nat.succ_pos _
      · apply (induction.filter _).imp_of_mem
        intro text other inKeys inKeys' before
        rw [later text (by simpa using (List.mem_filter.mp inKeys).2),
          later other (by simpa using (List.mem_filter.mp inKeys').2)]
        exact Nat.succ_lt_succ before

end Stats

/-- A fragment with the kind of the section that emits it. -/
structure Emission where
  kind : SectionKind
  fragment : Fragment
deriving DecidableEq, Repr

def Yield.under (kind : SectionKind) (yield : Yield) : List Emission :=
  yield.fragments.map (Emission.mk kind)

namespace Section

variable (config : Config) (indent : Int)

def opened (kind : SectionKind) (rest : Text) : Yield :=
  if rest.isEmpty then ∅ else ((start kind).take config indent rest).2

/-- What reading a text emits: a sentinel closes the open section and hands the rest of its text to
the next one, and any other text goes to the open section. -/
def readEmissions (last : Bool) (text : Text) (current : Section) : List Emission :=
  match sentinel? config text with
  | none => (current.read config indent last text).2.under current.kind
  | some found =>
      (current.finish config indent).under current.kind ++
        (opened config indent found.kind
          (found.remainder config.markers.lineComment text)).under found.kind

def allEmissions : List Text → Section → List Emission
  | [], current => (current.finish config indent).under current.kind
  | text :: texts, current =>
      readEmissions config indent texts.isEmpty text current ++
        allEmissions texts (current.read config indent texts.isEmpty text).1

def blockEmissions (block : List Line) : List Emission :=
  allEmissions config indent (texts config.markers.closing block) .outside

def starts (kind : SectionKind) (text : Text) : Bool :=
  (sentinel? config text).any (·.kind == kind)

end Section

/-- A fragment that has the tag of its section, and an attribute just if it is a parameter. -/
structure Emission.Tagged (config : Config) (emission : Emission) : Prop where
  tag : (emission.kind, emission.fragment.tag) ∈
    [(.summary, config.tags.summary), (.parameters, config.tags.param),
      (.returns, config.tags.returns)]
  attr : emission.fragment.attr.isSome = true ↔ emission.kind = .parameters

namespace Yield

@[simp] theorem under_empty (kind : SectionKind) : (∅ : Yield).under kind = [] := rfl

theorem under_emit (kind : SectionKind) (config : Config) (fragment : Fragment) :
    (emit config fragment).under kind = [⟨kind, fragment⟩] := rfl

theorem fragments_under (kind : SectionKind) (yield : Yield) :
    (yield.under kind).map Emission.fragment = yield.fragments := by
  rw [under, List.map_map]
  exact List.map_id _

end Yield

namespace Section

variable {config : Config} {indent : Int}

theorem tagged_flush (pending : Option Entry) :
    ∀ emission ∈ (flush config indent pending).under .parameters, emission.Tagged config := by
  intro emission member
  cases pending with
  | none => cases member
  | some entry =>
      rw [flush, Yield.under_emit] at member
      rw [List.mem_singleton.mp member]
      exact ⟨by simp [Entry.fragment], by simp [Entry.fragment]⟩

theorem tagged_finish (current : Section) :
    ∀ emission ∈ (current.finish config indent).under current.kind, emission.Tagged config := by
  cases current with
  | outside =>
      intro emission member
      cases member
  | summary body =>
      intro emission member
      rw [finish, Yield.under_emit] at member
      rw [List.mem_singleton.mp member]
      exact ⟨by simp [kind, summaryFragment], by simp [kind, summaryFragment]⟩
  | parameters pending => exact tagged_flush pending
  | returns body =>
      intro emission member
      rw [finish] at member
      split at member
      · cases member
      · rw [Yield.under_emit] at member
        rw [List.mem_singleton.mp member]
        exact ⟨by simp [kind, returnsFragment], by simp [kind, returnsFragment]⟩

theorem take_cases (config : Config) (indent : Int) (text : Text) (current : Section) :
    ((current.take config indent text).2.fragments = [] ∧
      (current.take config indent text).2.skippedReturns = 0) ∨
    ∃ pending, current = .parameters pending ∧
      (current.take config indent text).2 = flush config indent pending := by
  cases current with
  | outside => exact .inl ⟨rfl, rfl⟩
  | summary body => exact .inl ⟨rfl, rfl⟩
  | returns body => exact .inl ⟨rfl, rfl⟩
  | parameters pending =>
      cases found : text.cut? config.sentinels.separator with
      | some parts => exact .inr ⟨pending, rfl, by simp only [take, found]⟩
      | none =>
          left
          cases pending with
          | some entry => simp [take, found]
          | none =>
              simp only [take, found, orphan]
              split <;> exact ⟨rfl, rfl⟩

theorem tagged_take (text : Text) (current : Section) :
    ∀ emission ∈ (current.take config indent text).2.under current.kind,
      emission.Tagged config := by
  rcases take_cases config indent text current with ⟨none, -⟩ | ⟨pending, rfl, flushed⟩
  · intro emission member
    rw [Yield.under, none] at member
    cases member
  · rw [flushed]
    exact tagged_flush pending

theorem tagged_opened (kind : SectionKind) (rest : Text) :
    ∀ emission ∈ (opened config indent kind rest).under kind, emission.Tagged config := by
  rw [opened]
  split
  · intro emission member
    cases member
  · have taken : ∀ emission ∈ ((start kind).take config indent rest).2.under (start kind).kind,
        emission.Tagged config := tagged_take rest (start kind)
    rw [kind_start] at taken
    exact taken

theorem read_plain {text : Text} (plain : sentinel? config text = none) (last : Bool)
    (current : Section) :
    current.read config indent last text = current.take config indent text ∨
      current.read config indent last text = (current, ∅) := by
  simp only [read, plain]
  split
  · exact .inl rfl
  · exact .inr rfl

theorem read_sentinel {text : Text} {found : Sentinel.Match}
    (active : sentinel? config text = some found) (last : Bool) (current : Section) :
    (current.read config indent last text).1.kind = found.kind ∧
      (current.read config indent last text).2 =
        current.finish config indent ++ .note (.switched current.kind found.kind) ++
          opened config indent found.kind (found.remainder config.markers.lineComment text) := by
  simp only [read, active, enter, opened]
  split
  · exact ⟨kind_start found.kind, (Yield.append_empty _).symm⟩
  · exact ⟨by rw [kind_take, kind_start], rfl⟩

theorem fragments_readEmissions (last : Bool) (text : Text) (current : Section) :
    (readEmissions config indent last text current).map Emission.fragment =
      (current.read config indent last text).2.fragments := by
  cases active : sentinel? config text with
  | none =>
      simp only [readEmissions, active]
      exact Yield.fragments_under current.kind _
  | some found =>
      rw [(read_sentinel active last current).2]
      simp only [readEmissions, active, List.map_append, Yield.fragments_under]
      rw [Yield.fragments_append, Yield.fragments_append, Yield.note, List.append_nil]

theorem tagged_readEmissions (last : Bool) (text : Text) (current : Section) :
    ∀ emission ∈ readEmissions config indent last text current, emission.Tagged config := by
  cases active : sentinel? config text with
  | none =>
      simp only [readEmissions, active]
      rcases read_plain active last current with taken | left
      · rw [taken]
        exact tagged_take text current
      · rw [left]
        intro emission member
        cases member
  | some found =>
      simp only [readEmissions, active]
      intro emission member
      rcases List.mem_append.mp member with closing | behind
      · exact tagged_finish current emission closing
      · exact tagged_opened found.kind _ emission behind

/-- How many sections of a kind have come to their end: those that emitted a fragment, and the
return values that were left out. -/
def settled (kind : SectionKind) (emissions : List Emission) (skipped : Nat) : Nat :=
  emissions.countP (·.kind == kind) + if kind = .returns then skipped else 0

def isOpen (kind : SectionKind) (current : Section) : Nat :=
  if current.kind = kind then 1 else 0

theorem settled_append (kind : SectionKind) (first second : List Emission) (skipped more : Nat) :
    settled kind (first ++ second) (skipped + more) =
      settled kind first skipped + settled kind second more := by
  simp only [settled, List.countP_append]
  split <;> omega

theorem settled_under (kind other : SectionKind) (yield : Yield) :
    settled kind (yield.under other) yield.skippedReturns =
      (if other = kind then yield.fragments.length else 0) +
        if kind = .returns then yield.skippedReturns else 0 := by
  rw [settled, Yield.under, List.countP_map]
  congr 1
  split
  · rename_i same
    exact List.countP_eq_length.mpr fun _ _ => beq_iff_eq.mpr same
  · rename_i different
    exact List.countP_eq_zero.mpr fun _ _ equal => different (beq_iff_eq.mp equal)

variable {kind : SectionKind}

theorem settled_finish (counted : kind = .summary ∨ kind = .returns) (current : Section) :
    settled kind ((current.finish config indent).under current.kind)
        (current.finish config indent).skippedReturns =
      isOpen kind current := by
  rw [settled_under]
  rcases counted with rfl | rfl
  · cases current with
    | outside => rfl
    | summary body => rfl
    | parameters pending => cases pending <;> rfl
    | returns body => rfl
  · cases current with
    | outside => rfl
    | summary body => rfl
    | parameters pending => cases pending <;> rfl
    | returns body =>
        rw [finish]
        cases isNoValue config body <;> rfl

theorem settled_take (counted : kind = .summary ∨ kind = .returns) (text : Text)
    (current : Section) :
    settled kind ((current.take config indent text).2.under current.kind)
      (current.take config indent text).2.skippedReturns = 0 := by
  rw [settled_under]
  rcases take_cases config indent text current with ⟨none, skipped⟩ | ⟨pending, rfl, flushed⟩
  · rw [none, skipped]
    simp
  · rw [flushed]
    have other : Section.kind (.parameters pending) ≠ kind := by
      rcases counted with rfl | rfl <;> exact SectionKind.noConfusion
    have skipped : (flush config indent pending).skippedReturns = 0 := by
      cases pending <;> rfl
    rw [if_neg other, skipped]
    simp

theorem settled_opened (counted : kind = .summary ∨ kind = .returns) (other : SectionKind)
    (rest : Text) :
    settled kind ((opened config indent other rest).under other)
      (opened config indent other rest).skippedReturns = 0 := by
  rw [opened]
  split
  · simp [settled]
  · have taken : settled kind (((start other).take config indent rest).2.under (start other).kind)
        ((start other).take config indent rest).2.skippedReturns = 0 :=
      settled_take counted rest (start other)
    rw [kind_start] at taken
    exact taken

/-- A section that was open is still open or is settled, and a sentinel opens one. -/
theorem settled_read (counted : kind = .summary ∨ kind = .returns) (last : Bool) (text : Text)
    (current : Section) :
    settled kind (readEmissions config indent last text current)
          (current.read config indent last text).2.skippedReturns +
        isOpen kind (current.read config indent last text).1 =
      isOpen kind current + (starts config kind text).toNat := by
  cases active : sentinel? config text with
  | none =>
      simp only [readEmissions, active, starts, Option.any_none]
      rcases read_plain active last current with taken | left
      · rw [taken, settled_take counted, isOpen, kind_take, isOpen]
        simp
      · rw [left]
        simp [settled]
  | some found =>
      obtain ⟨next, yield⟩ :
          (current.read config indent last text).1.kind = found.kind ∧ _ = _ :=
        read_sentinel active last current
      have skipped : (current.read config indent last text).2.skippedReturns =
          (current.finish config indent).skippedReturns +
            (opened config indent found.kind
              (found.remainder config.markers.lineComment text)).skippedReturns := by
        rw [yield]
        rfl
      have started : (starts config kind text).toNat = isOpen kind (start found.kind) := by
        simp only [starts, active, Option.any_some, isOpen, kind_start]
        by_cases same : found.kind = kind <;> simp [same]
      simp only [readEmissions, active]
      rw [skipped, settled_append, settled_finish counted, settled_opened counted, started]
      simp only [isOpen, next, kind_start, Nat.add_zero]

theorem fragments_allEmissions (texts : List Text) (current : Section) :
    (allEmissions config indent texts current).map Emission.fragment =
      (readAll config indent texts current).2.fragments := by
  induction texts generalizing current with
  | nil =>
      rw [allEmissions, Yield.fragments_under]
      exact (List.append_nil _).symm
  | cons text texts induction =>
      rw [allEmissions, List.map_append, fragments_readEmissions, induction]
      rfl

theorem tagged_allEmissions (texts : List Text) (current : Section) :
    ∀ emission ∈ allEmissions config indent texts current, emission.Tagged config := by
  induction texts generalizing current with
  | nil => exact tagged_finish current
  | cons text texts induction =>
      intro emission member
      rcases List.mem_append.mp member with here | later
      · exact tagged_readEmissions texts.isEmpty text current emission here
      · exact induction _ emission later

theorem settled_readAll (counted : kind = .summary ∨ kind = .returns) (texts : List Text)
    (current : Section) :
    settled kind (allEmissions config indent texts current)
        (readAll config indent texts current).2.skippedReturns =
      isOpen kind current + texts.countP (starts config kind) := by
  induction texts generalizing current with
  | nil => exact settled_finish counted current
  | cons text texts induction =>
      -- Whatever section the first text leaves open is settled by the texts behind it.
      have read : settled kind (readEmissions config indent texts.isEmpty text current)
            (current.read config indent texts.isEmpty text).2.skippedReturns + _ = _ :=
        settled_read counted texts.isEmpty text current
      have split : (readAll config indent (text :: texts) current).2.skippedReturns =
          (current.read config indent texts.isEmpty text).2.skippedReturns +
            (readAll config indent texts
              (current.read config indent texts.isEmpty text).1).2.skippedReturns := rfl
      rw [allEmissions, split, settled_append, induction, ← Nat.add_assoc, read, List.countP_cons]
      cases starts config kind text with
      | true =>
          rw [Bool.toNat_true, if_pos rfl]
          omega
      | false => rfl

end Section

theorem Fragment.length_flatMap_render (doc newline : Text) (fragments : List Fragment) :
    (fragments.flatMap (render doc newline)).length =
      (fragments.map fun fragment => 2 + fragment.bodyLines.length).sum := by
  rw [List.length_flatMap]
  simp only [length_render, Nat.add_comm]

namespace Piece

def emissions (config : Config) : Piece → List Emission
  | .copied _ => []
  | .block width lines => Section.blockEmissions config width lines

def block? : Piece → Option (List Line)
  | .copied _ => none
  | .block _ lines => some lines

end Piece

namespace Scan

def copied (scan : Scan) : Nat :=
  scan.pieces.countP fun piece => !piece.isBlock

def closed (scan : Scan) : List (List Line) :=
  scan.pieces.filterMap Piece.block?

def emissions (config : Config) (scan : Scan) : List Emission :=
  scan.pieces.flatMap (Piece.emissions config)

def sentinels (config : Config) (kind : SectionKind) (scan : Scan) : Nat :=
  (scan.closed.map fun block =>
    (Section.texts config.markers.closing block).countP (Section.starts config kind)).sum

theorem copied_cons (piece : Piece) (scan : Scan) :
    (scan.cons piece).copied = scan.copied + if piece.isBlock then 0 else 1 := by
  rw [copied, cons, List.countP_cons]
  cases piece <;> rfl

theorem closed_cons (piece : Piece) (scan : Scan) :
    (scan.cons piece).closed = piece.block?.toList ++ scan.closed := by
  cases piece <;> rfl

theorem tail_cons (piece : Piece) (scan : Scan) : (scan.cons piece).tail = scan.tail := rfl

theorem length_scan (markers : Markers) (number width : Int) (lines : List Text) :
    lines.length = (markers.scan number width lines).copied +
      ((markers.scan number width lines).closed.map List.length).sum +
        (markers.scan number width lines).tail.length := by
  fun_induction Markers.scan markers number width lines with
  | case1 number width => rfl
  | case2 number width line rest opens unclosed =>
      simp [copied, closed, Line.length_numbered]
  | case3 number width line rest opens last found width' induction =>
      obtain ⟨inside, -⟩ := List.findIdx?_eq_some_iff_getElem.mp found
      have taken : ((line :: rest).take (last + 1)).length = last + 1 := by
        rw [List.length_take]
        omega
      rw [copied_cons, closed_cons, tail_cons]
      simp only [Piece.isBlock, Piece.block?, Option.toList_some, List.singleton_append,
        List.map_cons, List.sum_cons, Line.length_numbered, taken, if_true]
      rw [List.length_drop] at induction
      rw [List.length_cons] at inside ⊢
      omega
  | case4 number width line rest plain induction =>
      rw [copied_cons, closed_cons, tail_cons, List.length_cons, induction]
      simp only [Piece.isBlock, Piece.block?, Option.toList_none, List.nil_append,
        Bool.false_eq_true, if_false]
      omega

theorem length_written (config : Config) (scan : Scan) :
    (scan.written config).length = scan.copied +
      ((scan.fragments config).map fun fragment => 2 + fragment.bodyLines.length).sum := by
  simp only [written, copied, fragments]
  induction scan.pieces with
  | nil => rfl
  | cons piece pieces induction =>
      rw [List.flatMap_cons, List.length_append, induction, List.countP_cons, List.flatMap_cons,
        List.map_append, List.sum_append]
      cases piece with
      | copied text =>
          have one : (Piece.written config (.copied text)).length = 1 := rfl
          have copied : (!(Piece.copied text).isBlock) = true := rfl
          rw [one, if_pos copied, Piece.fragments, List.map_nil, List.sum_nil]
          omega
      | block width lines =>
          have block : ¬(!(Piece.block width lines).isBlock) = true := Bool.false_ne_true
          rw [Piece.written, Fragment.length_flatMap_render, if_neg block]
          omega

theorem fragments_emissions (config : Config) (scan : Scan) :
    (scan.emissions config).map Emission.fragment = scan.fragments config := by
  rw [emissions, fragments, List.map_flatMap]
  congr 1
  funext piece
  cases piece with
  | copied text => rfl
  | block width lines => exact Section.fragments_allEmissions _ .outside

theorem tagged_emissions (config : Config) (scan : Scan) :
    ∀ emission ∈ scan.emissions config, emission.Tagged config := by
  intro emission member
  obtain ⟨piece, -, here⟩ := List.mem_flatMap.mp member
  cases piece with
  | copied text => cases here
  | block width lines => exact Section.tagged_allEmissions _ .outside emission here

/-- Every sentinel of a summary or of a return value comes to its end. -/
theorem settled_emissions {kind : SectionKind} (counted : kind = .summary ∨ kind = .returns)
    (config : Config) (scan : Scan) :
    Section.settled kind (scan.emissions config) (scan.skipped config) =
      scan.sentinels config kind := by
  simp only [emissions, skipped, sentinels, closed]
  induction scan.pieces with
  | nil => simp [Section.settled]
  | cons piece pieces induction =>
      rw [List.flatMap_cons, List.foldr_cons, Section.settled_append, induction]
      cases piece with
      | copied text =>
          rw [List.filterMap_cons_none rfl]
          simp [Piece.emissions, Piece.skipped, Section.settled]
      | block width lines =>
          have read : Section.settled kind (Piece.emissions config (.block width lines))
              (Piece.skipped config (.block width lines)) = _ + _ :=
            Section.settled_readAll counted _ .outside
          have outside : Section.isOpen kind .outside = 0 := by
            rcases counted with rfl | rfl <;> rfl
          rw [read, outside, Nat.zero_add]
          rfl

theorem length_tailLines (scan : Scan) (policy : OpenTail) :
    (scan.tailLines policy).length = if policy = .flush then scan.tail.length else 0 := by
  cases policy with
  | error => rfl
  | flush => exact List.length_map _
  | drop => rfl

end Scan

/-- The accounts of a conversion of lines. The lines of the source and of the output add up; each
tag is counted, in the order of the first fragments; and every sentinel of a summary leads to one
fragment of a summary, as every sentinel of a return value does to one of a return value or to one
that is left out. -/
structure Accounts (config : Config) (lines : List Text) (context : Context) (scan : Scan) :
    Prop where
  linesRead : context.stats.linesRead = lines.length
  source : lines.length = scan.copied + (scan.closed.map List.length).sum + scan.tail.length
  linesWritten : context.stats.linesWritten = context.yield.lines.length
  output : context.yield.lines.length = scan.copied +
    (context.yield.fragments.map fun fragment => 2 + fragment.bodyLines.length).sum +
      if config.openTail = .flush then scan.tail.length else 0
  tags : ∀ tag, context.stats.fragments.lookup tag =
    if tag ∈ context.yield.fragments.map Fragment.tag then
      some ((context.yield.fragments.map Fragment.tag).count tag : Int)
    else none
  order : (context.stats.fragments.map Prod.fst).Pairwise fun first second =>
    (context.yield.fragments.map Fragment.tag).idxOf first <
      (context.yield.fragments.map Fragment.tag).idxOf second
  emitted : (scan.emissions config).map Emission.fragment = context.yield.fragments
  tagged : ∀ emission ∈ scan.emissions config, emission.Tagged config
  summaries : scan.sentinels config .summary = (scan.emissions config).countP (·.kind == .summary)
  returns : (scan.sentinels config .returns : Int) =
    (scan.emissions config).countP (·.kind == .returns) + context.stats.skippedReturns

/-- The accounts of every conversion of lines balance. -/
theorem convertLines_accounts (config : Config) (source : Option Path) (lines : List Text) :
    Accounts config lines (convertLines config source lines).1
      (config.markers.scan 1 0 lines) where
  linesRead := lineNumber_convertLines config source lines
  source := Scan.length_scan config.markers 1 0 lines
  linesWritten := rfl
  output := by
    rw [lines_convertLines, fragments_convertLines, List.length_append, Scan.length_written,
      Scan.length_tailLines]
  tags := Stats.lookup_tally _
  order := Stats.pairwise_tally _
  emitted := by rw [Scan.fragments_emissions, fragments_convertLines]
  tagged := Scan.tagged_emissions config _
  summaries := (Scan.settled_emissions (.inl rfl) config _).symm
  returns := by
    rw [← Scan.settled_emissions (.inr rfl), Section.settled, if_pos rfl, Context.stats,
      skippedReturns_convertLines, Int.natCast_add]

end Docblock

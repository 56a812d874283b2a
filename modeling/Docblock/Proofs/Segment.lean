import Docblock.Context
import Docblock.Proofs.Occurrence

/-!
The segments of a documentation block. Every sentinel of a block governs the texts from its own line
to the next sentinel, and what a block emits is read off these segments one by one, each from its
kind and its items alone.
-/

namespace Docblock

namespace Yield

def silent (yield : Yield) : Yield :=
  { yield with log := [] }

def ofFragments (config : Config) (fragments : List Fragment) (skipped : Nat) : Yield where
  lines := fragments.flatMap (Fragment.render config.markers.doc config.lineSeparator)
  fragments := fragments
  skippedReturns := skipped

@[simp] theorem silent_empty : (∅ : Yield).silent = ∅ := rfl

@[simp] theorem silent_append (first second : Yield) :
    (first ++ second).silent = first.silent ++ second.silent := rfl

@[simp] theorem silent_note (record : Record) : (note record).silent = ∅ := rfl

@[simp] theorem silent_emit (config : Config) (fragment : Fragment) :
    (emit config fragment).silent = ofFragments config [fragment] 0 := by
  simp [silent, emit, ofFragments]

@[simp] theorem ofFragments_nil (config : Config) : ofFragments config [] 0 = ∅ := rfl

theorem ofFragments_append (config : Config) (first second : List Fragment)
    (skipped more : Nat) :
    ofFragments config (first ++ second) (skipped + more) =
      ofFragments config first skipped ++ ofFragments config second more := by
  ext1 <;> simp [ofFragments]

end Yield

/-- The part of a block that one sentinel governs. -/
structure Segment where
  kind : SectionKind
  items : List Text
deriving DecidableEq, Repr

namespace Segment

def remainderItem (config : Config) (text : Text) (found : Sentinel.Match) : List Text :=
  let rest := found.remainder config.markers.lineComment text
  if rest.isEmpty then [] else [rest]

/-- The texts behind a sentinel that belong to it: all up to the next sentinel, but the closing text
of the block only if it is not blank and the sentinel starts no return value. -/
def following (config : Config) (kind : SectionKind) : List Text → List Text
  | [] => []
  | text :: texts =>
      if (Section.sentinel? config text).isSome then []
      else if texts.isEmpty && (text.allBlank || kind == .returns) then []
      else text :: following config kind texts

def cut (config : Config) : List Text → List Segment
  | [] => []
  | text :: texts =>
      match Section.sentinel? config text with
      | none => cut config texts
      | some found =>
          ⟨found.kind, remainderItem config text found ++ following config found.kind texts⟩ ::
            cut config texts

def continued (config : Config) (items : List Text) : List Text :=
  items.takeWhile fun item => !item.holds config.sentinels.separator

def entryBody (first : Text) (more : List Text) : Continuation → List Text
  | .prepend => more.reverse ++ [first]
  | .append => first :: more

/-- The parameters of a segment, one for each item that holds the separator. -/
def entries (config : Config) : List Text → List Entry
  | [] => []
  | item :: items =>
      match item.cut? config.sentinels.separator with
      | none => entries config items
      | some (name, description) =>
          ⟨name.strip, entryBody (' ' :: description) (continued config items)
            config.continuation⟩ :: entries config items

def isSkipped (config : Config) (segment : Segment) : Bool :=
  segment.kind == .returns && Text.join ['\n'] segment.items == config.sentinels.noValue

def fragments (config : Config) (indent : Int) (segment : Segment) : List Fragment :=
  match segment.kind with
  | .outside => []
  | .summary =>
      [{ tag := config.tags.summary
         body := Text.join ['\n'] (segment.items.filter fun item =>
           item.strip.lower != config.sentinels.description.lower)
         indent := indent }]
  | .parameters =>
      (entries config segment.items).map fun entry =>
        { tag := config.tags.param
          body := Text.join ['\n'] entry.body
          indent := indent
          attr := some (config.tags.paramAttr ++ ['=', '"'] ++ entry.name ++ ['"']) }
  | .returns =>
      if segment.isSkipped config then []
      else
        [{ tag := config.tags.returns
           body := Text.join ['\n'] segment.items
           indent := indent }]

def ofBlock (config : Config) (block : List Line) : List Segment :=
  cut config (Section.texts config.markers.closing block)

def reading (config : Config) (indent : Int) (block : List Line) : List Fragment :=
  (ofBlock config block).flatMap (fragments config indent)

def skippedIn (config : Config) (block : List Line) : Nat :=
  (ofBlock config block).countP (isSkipped config)

end Segment

namespace Segment

variable {first second : Config}

theorem sentinel?_congr (markers : first.markers = second.markers)
    (sentinels : first.sentinels = second.sentinels) (text : Text) :
    Section.sentinel? first text = Section.sentinel? second text := by
  rw [Section.sentinel?, Section.sentinel?, Config.sectionSentinels, Config.sectionSentinels,
    markers, sentinels]

theorem following_congr (markers : first.markers = second.markers)
    (sentinels : first.sentinels = second.sentinels) (kind : SectionKind) (texts : List Text) :
    following first kind texts = following second kind texts := by
  induction texts with
  | nil => rfl
  | cons text texts induction =>
      rw [following, following, induction, sentinel?_congr markers sentinels]

theorem cut_congr (markers : first.markers = second.markers)
    (sentinels : first.sentinels = second.sentinels) (texts : List Text) :
    cut first texts = cut second texts := by
  induction texts with
  | nil => rfl
  | cons text texts induction =>
      rw [cut, cut, induction, sentinel?_congr markers sentinels]
      simp only [following_congr markers sentinels, remainderItem, markers]

end Segment

namespace Section

open Segment

def settle (config : Config) (indent : Int) : List Text → Section → Yield
  | [], current => current.finish config indent
  | text :: texts, current =>
      (current.take config indent text).2 ++
        settle config indent texts (current.take config indent text).1

/-- What segments yield that come after a section of a kind. Every switch is noted, and the last one
leads outside. -/
def sequel (config : Config) (indent : Int) : SectionKind → List Segment → Yield
  | kind, [] => .note (.switched kind .outside)
  | kind, segment :: segments =>
      .note (.switched kind segment.kind) ++
        settle config indent segment.items (start segment.kind) ++
          sequel config indent segment.kind segments

theorem settle_outside (config : Config) (indent : Int) (texts : List Text) :
    settle config indent texts .outside = ∅ := by
  induction texts with
  | nil => rfl
  | cons text texts induction => simp [settle, induction]

theorem settle_summary (config : Config) (indent : Int) (texts body : List Text) :
    settle config indent texts (.summary body) =
      .emit config (summaryFragment config indent
        (body ++ texts.filter fun text => !isHeading config text)) := by
  induction texts generalizing body with
  | nil => simp [settle, finish]
  | cons text texts induction =>
      simp only [settle, take, Yield.empty_append]
      rw [induction]
      cases heading : isHeading config text <;> simp [heading]

theorem settle_returns (config : Config) (indent : Int) (texts body : List Text) :
    settle config indent texts (.returns body) =
      finish config indent (.returns (body ++ texts)) := by
  induction texts generalizing body with
  | nil => simp [settle]
  | cons text texts induction =>
      simp only [settle, take, Yield.empty_append]
      rw [induction, List.append_assoc, List.singleton_append]

theorem extend_entryBody (continuation : Continuation) (name first text : Text)
    (more : List Text) :
    Entry.extend continuation ⟨name, entryBody first more continuation⟩ text =
      ⟨name, entryBody first (more ++ [text]) continuation⟩ := by
  cases continuation <;> simp [Entry.extend, entryBody]

theorem entryBody_nil (first : Text) (continuation : Continuation) :
    entryBody first [] continuation = [first] := by
  cases continuation <;> rfl

theorem silent_flush (config : Config) (indent : Int) (entry : Entry) :
    (flush config indent (some entry)).silent =
      .ofFragments config [entry.fragment config indent] 0 := by
  simp [flush]

theorem silent_orphan (text : Text) : (orphan text).silent = ∅ := by
  unfold orphan
  split <;> rfl

theorem settle_entry (config : Config) (indent : Int) (texts : List Text) (name first : Text)
    (more : List Text) :
    (settle config indent texts
        (.parameters (some ⟨name, entryBody first more config.continuation⟩))).silent =
      .ofFragments config
        ((⟨name, entryBody first (more ++ continued config texts) config.continuation⟩ ::
          entries config texts).map (Entry.fragment config indent)) 0 := by
  induction texts generalizing name first more with
  | nil => simp [settle, finish, silent_flush, continued, entries]
  | cons text texts induction =>
      have holds := Text.isSome_cut? text config.sentinels.separator
      cases found : text.cut? config.sentinels.separator with
      | none =>
          rw [found] at holds
          simp only [settle, take, found, Yield.empty_append, extend_entryBody]
          rw [induction]
          simp [continued, entries, found, ← holds]
      | some parts =>
          obtain ⟨start, description⟩ := parts
          rw [found] at holds
          have fresh := induction start.strip (' ' :: description) []
          rw [entryBody_nil] at fresh
          simp only [settle, take, found, Yield.silent_append, silent_flush]
          rw [fresh, ← Yield.ofFragments_append]
          simp [continued, entries, found, ← holds]

theorem settle_parameters (config : Config) (indent : Int) (texts : List Text) :
    (settle config indent texts (.parameters none)).silent =
      .ofFragments config ((entries config texts).map (Entry.fragment config indent)) 0 := by
  induction texts with
  | nil => simp [settle, finish, flush, entries]
  | cons text texts induction =>
      cases found : text.cut? config.sentinels.separator with
      | none =>
          simp only [settle, take, found, Yield.silent_append, silent_orphan, induction]
          simp [entries, found]
      | some parts =>
          obtain ⟨name, description⟩ := parts
          have fresh := settle_entry config indent texts name.strip (' ' :: description) []
          rw [entryBody_nil] at fresh
          simp only [settle, take, found, flush, Yield.empty_append]
          rw [fresh]
          simp [entries, found]

theorem settle_start (config : Config) (indent : Int) (segment : Segment) :
    (settle config indent segment.items (start segment.kind)).silent =
      .ofFragments config (segment.fragments config indent)
        (if segment.isSkipped config then 1 else 0) := by
  obtain ⟨kind, items⟩ := segment
  cases kind with
  | outside => simp [start, settle_outside, fragments, isSkipped]
  | summary =>
      simp only [start, settle_summary, Yield.silent_emit, fragments, isSkipped]
      rfl
  | parameters =>
      simp only [start, settle_parameters, fragments, isSkipped]
      rfl
  | returns =>
      have same : isSkipped config ⟨.returns, items⟩ = isNoValue config items := rfl
      rw [start, settle_returns, List.nil_append, finish, fragments, same]
      cases isNoValue config items with
      | true => rfl
      | false => exact Yield.silent_emit config (returnsFragment config indent items)

theorem read_settle (config : Config) (indent : Int) (text : Text) (texts : List Text)
    (current : Section) (plain : sentinel? config text = none) :
    (current.read config indent texts.isEmpty text).2 ++
        settle config indent
          (following config (current.read config indent texts.isEmpty text).1.kind texts)
          (current.read config indent texts.isEmpty text).1 =
      settle config indent (following config current.kind (text :: texts)) current := by
  simp only [read, plain, following, Option.isSome_none, Bool.false_eq_true, if_false]
  -- Both sides leave out the same closing texts, one by the section and one by its kind.
  by_cases left : texts.isEmpty && (text.allBlank || current.kind == .returns)
  · have skip : (!texts.isEmpty || current.takesLast text) = false := by
      simp only [takesLast]
      grind
    rw [if_pos left, skip]
    have last : texts = [] := by simp_all
    simp [last, following]
  · have take : (!texts.isEmpty || current.takesLast text) = true := by
      simp only [takesLast]
      grind
    rw [if_neg left, take, if_pos rfl, kind_take]
    simp [settle]

theorem read_settle_sentinel (config : Config) (indent : Int) (last : Bool) (text : Text)
    (current : Section) (sentinel : Sentinel.Match) (found : sentinel? config text = some sentinel)
    (items : List Text) :
    (current.read config indent last text).2 ++
        settle config indent items (current.read config indent last text).1 =
      current.finish config indent ++ .note (.switched current.kind sentinel.kind) ++
        settle config indent (remainderItem config text sentinel ++ items)
          (start sentinel.kind) := by
  simp only [read, found, enter, remainderItem]
  split
  · simp
  · simp [settle, Yield.append_assoc]

/-- Reading texts from an open section on: the section takes in the items that follow, and the
segments after it stand on their own. -/
theorem readAll_settle (config : Config) (indent : Int) (texts : List Text) (current : Section) :
    (readAll config indent texts current).2 =
      settle config indent (following config current.kind texts) current ++
        sequel config indent current.kind (cut config texts) := by
  induction texts generalizing current with
  | nil => rfl
  | cons text texts induction =>
      have split : (readAll config indent (text :: texts) current).2 =
          (current.read config indent texts.isEmpty text).2 ++
            (readAll config indent texts
              (current.read config indent texts.isEmpty text).1).2 := rfl
      rw [split, induction, ← Yield.append_assoc]
      -- A sentinel leaves the open section without further items and starts a segment of its own.
      cases found : sentinel? config text with
      | none =>
          have kind : (current.read config indent texts.isEmpty text).1.kind = current.kind := by
            simp only [read, found]
            split
            · exact kind_take config indent text current
            · rfl
          rw [read_settle config indent text texts current found, kind]
          simp [cut, found]
      | some sentinel =>
          have kind : (current.read config indent texts.isEmpty text).1.kind = sentinel.kind := by
            simp only [read, found, enter]
            split
            · exact kind_start sentinel.kind
            · rw [kind_take, kind_start]
          rw [kind, read_settle_sentinel config indent _ text current sentinel found]
          simp [following, found, settle, cut, sequel, Yield.append_assoc]

theorem silent_sequel (config : Config) (indent : Int) (kind : SectionKind)
    (segments : List Segment) :
    (sequel config indent kind segments).silent =
      .ofFragments config (segments.flatMap (fragments config indent))
        (segments.countP (isSkipped config)) := by
  induction segments generalizing kind with
  | nil => rfl
  | cons segment segments induction =>
      rw [sequel, Yield.silent_append, Yield.silent_append, Yield.silent_note, Yield.empty_append,
        settle_start, induction, ← Yield.ofFragments_append, List.flatMap_cons, List.countP_cons,
        Nat.add_comm]

theorem silent_readAll (config : Config) (indent : Int) (texts : List Text) (current : Section) :
    (readAll config indent texts current).2.silent =
      (settle config indent (following config current.kind texts) current).silent ++
        .ofFragments config ((cut config texts).flatMap (fragments config indent))
          ((cut config texts).countP (isSkipped config)) := by
  rw [readAll_settle, Yield.silent_append, silent_sequel]

theorem silent_readBlock (config : Config) (indent : Int) (block : List Line) :
    (readBlock config indent block).2.silent =
      .ofFragments config (reading config indent block) (skippedIn config block) := by
  rw [readBlock, silent_readAll, settle_outside, Yield.silent_empty, Yield.empty_append]
  rfl

theorem fragments_readBlock (config : Config) (indent : Int) (block : List Line) :
    (readBlock config indent block).2.fragments = reading config indent block :=
  congrArg Yield.fragments (silent_readBlock config indent block)

theorem skippedReturns_readBlock (config : Config) (indent : Int) (block : List Line) :
    (readBlock config indent block).2.skippedReturns = skippedIn config block :=
  congrArg Yield.skippedReturns (silent_readBlock config indent block)

end Section

namespace Section

theorem texts_congr (closing : Text) {first second : List Line}
    (bodies : first.map Line.body = second.map Line.body) :
    texts closing first = texts closing second := by
  induction first generalizing second with
  | nil =>
      obtain rfl : second = [] := by simpa using bodies.symm
      rfl
  | cons line lines induction =>
      cases second with
      | nil => cases bodies
      | cons other others =>
          obtain ⟨body, rest⟩ := List.cons.inj bodies
          cases lines with
          | nil =>
              obtain rfl : others = [] := by simpa using rest.symm
              simp only [texts, body]
          | cons next more =>
              cases others with
              | nil => cases rest
              | cons next' more' =>
                  change line.body :: texts closing (next :: more) =
                    other.body :: texts closing (next' :: more')
                  rw [body, induction rest]

theorem readBlock_congr (config : Config) (indent : Int) {first second : List Line}
    (bodies : first.map Line.body = second.map Line.body) :
    readBlock config indent first = readBlock config indent second := by
  rw [readBlock, readBlock, texts_congr config.markers.closing bodies]

end Section

theorem State.silent_closeBlock (config : Config) (next : Option Text) (state : State) :
    (state.closeBlock config next).2.silent =
      .ofFragments config (Segment.reading config (state.widthBefore next) state.collector.block)
          (Segment.skippedIn config state.collector.block) ++ { blocks := 1 } := by
  simp only [closeBlock, Yield.silent_append, Yield.silent_note, Yield.empty_append,
    Section.silent_readBlock]
  rfl

namespace Segment

/-- A block emits, in order and at the indentation that it is read at, the fragments of its
segments; whatever section earlier blocks have left in the state of a conversion has no part in
it. -/
theorem block_emits_reading (config : Config) :
    (∀ (indent : Int) (block : List Line),
      (Section.readBlock config indent block).2.fragments = reading config indent block ∧
      (Section.readBlock config indent block).2.skippedReturns = skippedIn config block) ∧
    ∀ (state : State) (next : Option Text),
      (state.closeBlock config next).2.fragments =
        reading config (state.widthBefore next) state.collector.block ∧
      (state.closeBlock config next).2.skippedReturns =
        skippedIn config state.collector.block := by
  constructor
  · intro indent block
    exact ⟨Section.fragments_readBlock config indent block,
      Section.skippedReturns_readBlock config indent block⟩
  · intro state next
    have emitted := State.silent_closeBlock config next state
    exact ⟨(congrArg Yield.fragments emitted).trans (List.append_nil _),
      congrArg Yield.skippedReturns emitted⟩

end Segment

end Docblock

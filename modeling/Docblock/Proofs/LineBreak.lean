import Docblock.Proofs.Occurrence
import Docblock.Proofs.Output

namespace Docblock

theorem Newline.eq_lf_of_noReturn {newline : Newline} {body : Text}
    (noReturn : '\r' ∉ body ++ newline.text) : newline = .lf := by
  cases newline with
  | lf => rfl
  | crlf => exact absurd (by simp [Newline.text]) noReturn
  | cr => exact absurd (by simp [Newline.text]) noReturn

namespace Text

def withBreaks (newline : Newline) (text : Text) : Text :=
  text.flatMap fun c => if c = '\n' then newline.text else [c]

def Fed (line : Text) : Prop :=
  ∃ body, Unbroken body ∧ (line = body ∨ line = body ++ Newline.lf.text)

@[simp] theorem withBreaks_append (newline : Newline) (first second : Text) :
    withBreaks newline (first ++ second) = withBreaks newline first ++ withBreaks newline second := by
  simp [withBreaks]

@[simp] theorem withBreaks_lf (newline : Newline) :
    withBreaks newline Newline.lf.text = newline.text := by
  simp [withBreaks, Newline.text]

theorem withBreaks_of_unbroken (newline : Newline) {text : Text} (unbroken : Unbroken text) :
    withBreaks newline text = text := by
  induction text with
  | nil => rfl
  | cons c text induction =>
      obtain ⟨noBreak, others⟩ := unbroken_cons.mp unbroken
      have plain : c ≠ '\n' := by
        rintro rfl
        exact absurd noBreak (by decide)
      have rest := induction others
      simp only [withBreaks] at rest
      simp [withBreaks, plain, rest]

theorem flatten_map_withBreaks (newline : Newline) (lines : List Text) :
    (lines.map (withBreaks newline)).flatten = withBreaks newline lines.flatten := by
  induction lines with
  | nil => rfl
  | cons line lines induction => simp [induction]

theorem lf_not_mem_withBreaks_cr (text : Text) : '\n' ∉ withBreaks .cr text := by
  intro member
  obtain ⟨c, -, inside⟩ := List.mem_flatMap.mp member
  split at inside
  · simp [Newline.text] at inside
  · rename_i plain
    exact plain (List.mem_singleton.mp inside).symm

theorem Lined.fed {pieces : List Text} (lined : Lined pieces) (noReturn : '\r' ∉ pieces.flatten) :
    ∀ line ∈ pieces, Fed line := by
  induction lined with
  | nil =>
      intro line member
      cases member
  | last unbroken nonempty =>
      intro line member
      rw [List.mem_singleton.mp member]
      exact ⟨_, unbroken, .inl rfl⟩
  | @cons body pieces newline unbroken rest induction =>
      rw [List.flatten_cons, List.mem_append, not_or] at noReturn
      obtain rfl := Newline.eq_lf_of_noReturn noReturn.1
      intro line member
      rcases List.mem_cons.mp member with rfl | later
      · exact ⟨body, unbroken, .inr rfl⟩
      · exact induction noReturn.2 line later

theorem Lined.lines_withBreaks (newline : Newline) {pieces : List Text} (lined : Lined pieces)
    (noReturn : '\r' ∉ pieces.flatten) :
    lines (withBreaks newline pieces.flatten) = pieces.map (withBreaks newline) := by
  induction lined with
  | nil => rfl
  | last unbroken nonempty =>
      rw [List.map_singleton, List.flatten_singleton, withBreaks_of_unbroken newline unbroken]
      exact lines_of_unbroken unbroken nonempty
  | @cons body pieces ending unbroken rest induction =>
      rw [List.flatten_cons, List.mem_append, not_or] at noReturn
      obtain rfl := Newline.eq_lf_of_noReturn noReturn.1
      have apart : ¬(newline = .cr ∧ (withBreaks newline pieces.flatten).head? = some '\n') := by
        rintro ⟨rfl, starts⟩
        exact lf_not_mem_withBreaks_cr _ (List.mem_of_mem_head? starts)
      rw [List.flatten_cons, List.map_cons, withBreaks_append, withBreaks_append, withBreaks_lf,
        withBreaks_of_unbroken newline unbroken, lines_append_newline unbroken newline _ apart,
        induction noReturn.2]

theorem Fed.unbroken_stripBreak {line : Text} (fed : Fed line) : Unbroken line.stripBreak := by
  obtain ⟨body, unbroken, rfl | rfl⟩ := fed
  · rw [stripBreak_of_unbroken unbroken]
    exact unbroken
  · rw [stripBreak_append_newline unbroken]
    exact unbroken

theorem strip_append_newline (text : Text) (newline : Newline) :
    strip (text ++ newline.text) = strip text := by
  rw [strip, strip, stripStart, List.dropWhile_append]
  split
  · rename_i empty
    have gone : newline.text.dropWhile isBlank = [] := by
      cases newline <;> rfl
    rw [stripStart, List.isEmpty_iff.mp empty, gone]
  · exact stripEnd_append_of_blank (allBlank_newline newline) _

theorem leadingSpaces_append_newline (text : Text) (newline : Newline) :
    leadingSpaces (text ++ newline.text) = leadingSpaces text := by
  have stops : newline.text.takeWhile (· == ' ') = [] := by
    cases newline <;> rfl
  rw [leadingSpaces, leadingSpaces, List.takeWhile_append, stops]
  split
  · rename_i all
    rw [List.append_nil, all]
  · rfl

theorem holds_append_newline {pattern : Text} (unbroken : Unbroken pattern) (text : Text)
    (newline : Newline) : holds (text ++ newline.text) pattern = holds text pattern := by
  have lacks : ∀ c, isBreak c = true → c ∉ pattern := by
    intro c isBreak member
    rw [unbroken c member] at isBreak
    cases isBreak
  rw [Bool.eq_iff_iff, holds_iff, holds_iff]
  constructor
  · intro occurs
    cases newline with
    | lf => exact isInfix_of_concat (lacks _ rfl) occurs
    | cr => exact isInfix_of_concat (lacks _ rfl) occurs
    | crlf =>
        have split : text ++ Newline.crlf.text = text ++ ['\r'] ++ ['\n'] := by
          simp [Newline.text]
        rw [split] at occurs
        exact isInfix_of_concat (lacks _ rfl) (isInfix_of_concat (lacks _ rfl) occurs)
  · intro occurs
    exact occurs.trans List.infix_append_left

end Text

structure Markers.Like (markers : Markers) (first second : Text) : Prop where
  opens : markers.opens first = markers.opens second
  closes : markers.closes first = markers.closes second
  width : first.leadingSpaces = second.leadingSpaces
  body : first.stripBreak = second.stripBreak

open Text

theorem Markers.like_append_newline {markers : Markers} (opening : Unbroken markers.opening)
    (lineComment : Unbroken markers.lineComment) {body : Text} (unbroken : Unbroken body)
    (newline : Newline) : markers.Like (body ++ newline.text) body where
  opens := by
    rw [Markers.opens, Markers.opens, holds_append_newline opening,
      holds_append_newline lineComment]
  closes := by rw [Markers.closes, Markers.closes, strip_append_newline]
  width := leadingSpaces_append_newline body newline
  body := by rw [stripBreak_append_newline unbroken, stripBreak_of_unbroken unbroken]

theorem Markers.like_withBreaks {markers : Markers} (opening : Unbroken markers.opening)
    (lineComment : Unbroken markers.lineComment) (newline : Newline) {line : Text}
    (fed : Fed line) : markers.Like (withBreaks newline line) line := by
  obtain ⟨body, unbroken, rfl | rfl⟩ := fed
  · rw [withBreaks_of_unbroken newline unbroken]
    exact ⟨rfl, rfl, rfl, rfl⟩
  · rw [withBreaks_append, withBreaks_lf, withBreaks_of_unbroken newline unbroken]
    have other := like_append_newline opening lineComment unbroken newline
    have feed := like_append_newline opening lineComment unbroken .lf
    exact ⟨other.opens.trans feed.opens.symm, other.closes.trans feed.closes.symm,
      other.width.trans feed.width.symm, other.body.trans feed.body.symm⟩

namespace Segment

variable (config : Config) (newline : Option Newline)

theorem cut_newline (texts : List Text) :
    cut { config with newline } texts = cut config texts := by
  apply cut_congr
  · rfl
  · rfl

theorem entries_newline (items : List Text) :
    entries { config with newline } items = entries config items := by
  induction items with
  | nil => rfl
  | cons item items induction =>
      simp only [entries, induction]
      rfl

theorem fragments_newline (indent : Int) (segment : Segment) :
    fragments { config with newline } indent segment = fragments config indent segment := by
  obtain ⟨kind, items⟩ := segment
  cases kind with
  | outside => rfl
  | summary => rfl
  | parameters => simp only [fragments, entries_newline]
  | returns => rfl

theorem reading_newline (indent : Int) (block : List Line) :
    reading { config with newline } indent block = reading config indent block := by
  have fragments : fragments { config with newline } indent = fragments config indent := by
    funext segment
    exact fragments_newline config newline indent segment
  rw [reading, reading, ofBlock, ofBlock, cut_newline, fragments]

theorem skippedIn_newline (block : List Line) :
    skippedIn { config with newline } block = skippedIn config block := by
  rw [skippedIn, skippedIn, ofBlock, ofBlock, cut_newline]
  rfl

end Segment

namespace Yield

def mapLines (f : Text → Text) (yield : Yield) : Yield :=
  { yield with lines := yield.lines.map f }

@[simp] theorem mapLines_append (f : Text → Text) (first second : Yield) :
    (first ++ second).mapLines f = first.mapLines f ++ second.mapLines f := by
  ext1 <;> simp [mapLines]

end Yield

theorem Fragment.render_withBreaks {config : Config} {fragment : Fragment} {doc : Text}
    (unbroken : Unbroken doc) (tags : config.tags.Unbroken)
    (drawn : fragment.Over config fun c => isBreak c = false) (newline : Newline) :
    fragment.render doc newline.text =
      (fragment.render doc Newline.lf.text).map (withBreaks newline) := by
  rw [render, render, List.map_map]
  apply List.map_congr_left
  intro content member
  have lead : Unbroken (fragment.lead doc) := unbroken_lead unbroken
  have inside : Unbroken content := unbroken_content tags drawn member
  simp only [Function.comp_apply, withBreaks_append, withBreaks_lf,
    withBreaks_of_unbroken newline lead, withBreaks_of_unbroken newline inside]

theorem Yield.ofFragments_withBreaks {config : Config} (doc : Unbroken config.markers.doc)
    (tags : config.tags.Unbroken) (newline : Newline) (skipped : Nat) {fragments : List Fragment}
    (drawn : ∀ fragment ∈ fragments, fragment.Over config fun c => isBreak c = false) :
    ofFragments { config with newline := some newline } fragments skipped =
      (ofFragments { config with newline := some .lf } fragments skipped).mapLines
        (withBreaks newline) := by
  have lines : fragments.flatMap (Fragment.render config.markers.doc newline.text) =
      (fragments.flatMap (Fragment.render config.markers.doc Newline.lf.text)).map
        (withBreaks newline) := by
    induction fragments with
    | nil => rfl
    | cons fragment fragments induction =>
        obtain ⟨first, others⟩ := List.forall_mem_cons.mp drawn
        rw [List.flatMap_cons, List.flatMap_cons, List.map_append,
          Fragment.render_withBreaks doc tags first, induction others]
  ext1
  · exact lines
  · rfl
  · rfl
  · rfl
  · rfl

theorem Section.silent_readBlock_withBreaks {config : Config} (doc : Unbroken config.markers.doc)
    (tags : config.tags.Unbroken) (newline : Newline) (width : Int) {first second : List Line}
    (bodies : first.map Line.body = second.map Line.body)
    (unbroken : ∀ line ∈ second, Unbroken line.body) :
    (readBlock { config with newline := some newline } width first).2.silent =
      (readBlock { config with newline := some .lf } width second).2.silent.mapLines
        (withBreaks newline) := by
  rw [readBlock_congr _ width bodies, silent_readBlock, silent_readBlock,
    Segment.reading_newline config (some newline), Segment.reading_newline config (some .lf),
    Segment.skippedIn_newline config (some newline), Segment.skippedIn_newline config (some .lf)]
  apply Yield.ofFragments_withBreaks doc tags
  exact Segment.reading_over (by decide) unbroken

namespace Markers

theorem findIdx?_closes_map {markers : Markers} {f : Text → Text} {lines : List Text}
    (like : ∀ line ∈ lines, markers.Like (f line) line) :
    (lines.map f).findIdx? markers.closes = lines.findIdx? markers.closes := by
  induction lines with
  | nil => rfl
  | cons line lines induction =>
      obtain ⟨first, others⟩ := List.forall_mem_cons.mp like
      rw [List.map_cons, List.findIdx?_cons, List.findIdx?_cons, first.closes, induction others]

theorem widthAfter_map {markers : Markers} {f : Text → Text} {rest : List Text}
    (like : ∀ line ∈ rest, markers.Like (f line) line) (width : Int) :
    widthAfter width (rest.map f) = widthAfter width rest := by
  cases rest with
  | nil => rfl
  | cons line rest =>
      have first := (like line List.mem_cons_self).width
      simp only [widthAfter, List.map_cons, List.head?_cons, Option.map_some, first]

theorem bodies_map {markers : Markers} {f : Text → Text} {lines : List Text}
    (like : ∀ line ∈ lines, markers.Like (f line) line) (number : Int) :
    (Line.numbered number (lines.map f)).map Line.body =
      (Line.numbered number lines).map Line.body := by
  induction lines generalizing number with
  | nil => rfl
  | cons line lines induction =>
      obtain ⟨first, others⟩ := List.forall_mem_cons.mp like
      have body : Line.body ⟨f line, number⟩ = Line.body ⟨line, number⟩ := first.body
      rw [List.map_cons, Line.numbered, Line.numbered, List.map_cons, List.map_cons, body,
        induction others]

variable {config : Config}

theorem scan_withBreaks (opening : Unbroken config.markers.opening)
    (lineComment : Unbroken config.markers.lineComment) (doc : Unbroken config.markers.doc)
    (tags : config.tags.Unbroken) (newline : Newline) (number width : Int) {lines : List Text}
    (fed : ∀ line ∈ lines, Fed line) :
    (config.markers.scan number width (lines.map (withBreaks newline))).yield
        { config with newline := some newline } =
      ((config.markers.scan number width lines).yield
        { config with newline := some .lf }).mapLines (withBreaks newline) ∧
    ∃ start texts,
      (config.markers.scan number width lines).tail = Line.numbered start texts ∧
      (config.markers.scan number width (lines.map (withBreaks newline))).tail =
        Line.numbered start (texts.map (withBreaks newline)) := by
  have alike : ∀ {lines : List Text}, (∀ line ∈ lines, Fed line) →
      ∀ line ∈ lines, config.markers.Like (withBreaks newline line) line := by
    intro lines fed line member
    exact like_withBreaks opening lineComment newline (fed line member)
  fun_induction Markers.scan config.markers number width lines with
  | case1 number width =>
      rw [List.map_nil, Markers.scan]
      exact ⟨rfl, number, [], rfl, rfl⟩
  | case2 number width line rest opens unclosed =>
      have like := alike fed
      have opens' := (like line List.mem_cons_self).opens.trans opens
      have unclosed' := (findIdx?_closes_map like).trans unclosed
      rw [List.map_cons] at unclosed' ⊢
      rw [Markers.scan, if_pos opens', unclosed']
      exact ⟨rfl, number, line :: rest, rfl, rfl⟩
  | case3 number width line rest opens last found width' induction =>
      have like := alike fed
      have opens' := (like line List.mem_cons_self).opens.trans opens
      have found' := (findIdx?_closes_map like).trans found
      have behind : ∀ other ∈ rest.drop last, Fed other := by
        intro other member
        exact fed other (List.mem_cons_of_mem line (List.drop_subset last rest member))
      have inBlock : ∀ other ∈ (line :: rest).take (last + 1), Fed other := by
        intro other member
        exact fed other (List.take_subset _ _ member)
      obtain ⟨yield, tail⟩ := induction behind
      rw [List.map_cons] at found' ⊢
      rw [Markers.scan, if_pos opens', found']
      simp only [← List.map_drop, widthAfter_map (alike behind), ← List.map_cons, ← List.map_take]
      refine ⟨?_, tail⟩
      have bodies := bodies_map (alike inBlock) number
      have unbroken : ∀ other ∈ Line.numbered number ((line :: rest).take (last + 1)),
          Unbroken other.body := by
        intro other member
        exact (inBlock _ (Line.text_mem_of_mem_numbered member)).unbroken_stripBreak
      rw [Scan.yield_block, Scan.yield_block, yield, Yield.mapLines_append, Yield.mapLines_append,
        Section.silent_readBlock_withBreaks doc tags newline width' bodies unbroken]
      rfl
  | case4 number width line rest plain induction =>
      have like := alike fed
      have plain' : ¬config.markers.opens (withBreaks newline line) = true := by
        rw [(like line List.mem_cons_self).opens]
        exact plain
      obtain ⟨yield, tail⟩ := induction (List.forall_mem_cons.mp fed).2
      rw [List.map_cons, Markers.scan, if_neg plain']
      refine ⟨?_, tail⟩
      rw [Scan.yield_copied, Scan.yield_copied, yield, Yield.mapLines_append]
      rfl

end Markers

namespace Scan

variable {first second : Scan} {start : Int} {texts : List Text} {f : Text → Text}

theorem unclosed_map (tail : first.tail = Line.numbered start texts)
    (tail' : second.tail = Line.numbered start (texts.map f)) (source : Option Path)
    (policy : OpenTail) : second.unclosed source policy = first.unclosed source policy := by
  cases policy with
  | error =>
      rw [unclosed, unclosed, tail, tail']
      cases texts with
      | nil => rfl
      | cons text texts => rfl
  | flush => rfl
  | drop => rfl

theorem tailLines_map (tail : first.tail = Line.numbered start texts)
    (tail' : second.tail = Line.numbered start (texts.map f)) (policy : OpenTail) :
    second.tailLines policy = (first.tailLines policy).map f := by
  cases policy with
  | error => rfl
  | flush => rw [tailLines, tailLines, tail, tail', Line.text_numbered, Line.text_numbered]
  | drop => rfl

theorem isEmpty_tail_map (tail : first.tail = Line.numbered start texts)
    (tail' : second.tail = Line.numbered start (texts.map f)) :
    second.tail.isEmpty = first.tail.isEmpty := by
  rw [tail, tail']
  cases texts with
  | nil => rfl
  | cons text texts => rfl

end Scan

theorem Context.stats_eq_of_mapLines {first second : Context} {f : Text → Text}
    (yield : first.yield.silent = second.yield.silent.mapLines f)
    (lineNumber : first.state.lineNumber = second.state.lineNumber)
    (unterminated : first.state.unterminated = second.state.unterminated) :
    first.stats = second.stats := by
  have lines : first.yield.lines.length = second.yield.lines.length :=
    (congrArg (fun yield => yield.lines.length) yield).trans (List.length_map f)
  have fragments := congrArg Yield.fragments yield
  have blocks := congrArg Yield.blocks yield
  have skipped := congrArg Yield.skippedReturns yield
  simp only [Yield.silent, Yield.mapLines] at fragments blocks skipped
  simp only [stats, lines, fragments, blocks, skipped, lineNumber, unterminated]

/-- Another line break in the place of LF, in a text and in the configuration, changes nothing in a
conversion but the line breaks of the output. -/
theorem convertText_withBreaks (config : Config) (opening : Unbroken config.markers.opening)
    (lineComment : Unbroken config.markers.lineComment) (doc : Unbroken config.markers.doc)
    (tags : config.tags.Unbroken) (source : Option Path) (text : Text) (noReturn : '\r' ∉ text)
    (newline : Newline) :
    let feeds := convertText { config with newline := some .lf } source text
    let others :=
      convertText { config with newline := some newline } source (withBreaks newline text)
    others.2 = feeds.2 ∧
    others.1.text = withBreaks newline feeds.1.text ∧
    others.1.stats = feeds.1.stats := by
  intro feeds others
  have noReturn' : '\r' ∉ (lines text).flatten := by
    rw [flatten_lines]
    exact noReturn
  have cut : lines (withBreaks newline text) = (lines text).map (withBreaks newline) := by
    have pieces := (lined_lines text).lines_withBreaks newline noReturn'
    rw [flatten_lines] at pieces
    exact pieces
  have fed := (lined_lines text).fed noReturn'
  obtain ⟨scanned, start, texts, tail, tail'⟩ :=
    Markers.scan_withBreaks opening lineComment doc tags newline 1 0 fed
  have failure : others.2 = feeds.2 := by
    simp only [others, feeds, convertText, cut, unclosed_convertLines]
    exact Scan.unclosed_map tail tail' source config.openTail
  have yield : others.1.yield.silent = feeds.1.yield.silent.mapLines (withBreaks newline) := by
    simp only [others, feeds, convertText, cut, silent_convertLines, Yield.mapLines_append]
    rw [scanned, Scan.tailLines_map tail tail' config.openTail]
    rfl
  have output : others.1.text = withBreaks newline feeds.1.text :=
    (congrArg (fun yield => yield.lines.flatten) yield).trans
      (flatten_map_withBreaks newline feeds.1.yield.lines)
  refine ⟨failure, output, Context.stats_eq_of_mapLines yield ?_ ?_⟩
  · simp only [others, feeds, convertText, cut, lineNumber_convertLines, List.length_map]
  · simp only [others, feeds, convertText, cut, unterminated_convertLines]
    rw [Scan.isEmpty_tail_map tail tail']

/-- A block, a line behind it and an open tail that is copied, with CR in the place of LF. -/
theorem convertText_withBreaks_cr :
    let config : Config := { openTail := .flush }
    let text := "a\n\x7b@@ Summary: s\n t \x7d\n  b\n\x7b@@ open\n".toList
    let feeds := convertText { config with newline := some .lf } none text
    let others := convertText { config with newline := some .cr } none (withBreaks .cr text)
    Unbroken config.markers.opening ∧
    Unbroken config.markers.lineComment ∧
    Unbroken config.markers.doc ∧
    config.tags.Unbroken ∧
    '\r' ∉ text ∧
    others.1.text =
      "a\r  /// <summary>\r  /// s\r  ///  t\r  /// </summary>\r  b\r\x7b@@ open\r".toList ∧
    others.2 = feeds.2 ∧
    others.1.text = withBreaks .cr feeds.1.text ∧
    others.1.stats = feeds.1.stats := by
  intro config text feeds others
  have opening : Unbroken config.markers.opening := by decide
  have lineComment : Unbroken config.markers.lineComment := by decide
  have doc : Unbroken config.markers.doc := by decide
  have tags : config.tags.Unbroken := ⟨by decide, by decide, by decide, by decide⟩
  have noReturn : '\r' ∉ text := by decide +kernel
  refine ⟨opening, lineComment, doc, tags, noReturn, by decide +kernel, ?_⟩
  exact convertText_withBreaks config opening lineComment doc tags none text noReturn .cr

end Docblock

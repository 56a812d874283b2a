import Docblock.Proofs.Occurrence
import Docblock.Sentinel
import Mathlib.Order.Bounds.Basic

namespace Docblock

namespace Text

theorem find?_eq_some_iff {pattern text : Text} {position : Nat} :
    find? pattern text = some position ↔
      pattern <+: text.drop position ∧ ∀ earlier < position, ¬pattern <+: text.drop earlier := by
  induction text generalizing position with
  | nil =>
      rw [find?]
      cases pattern with
      | nil =>
          constructor
          · intro found
            cases found
            exact ⟨List.nil_prefix, fun earlier before => absurd before (Nat.not_lt_zero earlier)⟩
          · rintro ⟨-, none⟩
            cases position with
            | zero => rfl
            | succ position => exact absurd List.nil_prefix (none 0 (Nat.zero_lt_succ position))
      | cons c pattern => simp
  | cons c text induction =>
      rw [find?]
      split
      · rename_i starts
        have here : pattern <+: (c :: text).drop 0 := List.isPrefixOf_iff_prefix.mp starts
        constructor
        · intro found
          cases found
          exact ⟨here, fun earlier before => absurd before (Nat.not_lt_zero earlier)⟩
        · rintro ⟨-, none⟩
          cases position with
          | zero => rfl
          | succ position => exact absurd here (none 0 (Nat.zero_lt_succ position))
      · rename_i elsewhere
        have absent : ¬pattern <+: (c :: text).drop 0 :=
          fun starts => elsewhere (List.isPrefixOf_iff_prefix.mpr starts)
        cases position with
        | zero => simpa using absent
        | succ position =>
            rw [Option.map_eq_some_iff]
            simp only [Nat.add_right_cancel_iff, exists_eq_right, induction, List.drop_succ_cons]
            refine and_congr_right fun _ => ⟨?_, ?_⟩
            · intro none earlier before
              cases earlier with
              | zero => exact absent
              | succ earlier => exact none earlier (Nat.lt_of_succ_lt_succ before)
            · intro none earlier before
              exact none (earlier + 1) (Nat.succ_lt_succ before)

theorem find?_eq_none_iff {pattern text : Text} :
    find? pattern text = none ↔ ∀ position, ¬pattern <+: text.drop position := by
  constructor
  · intro missing position starts
    have absent : ¬pattern <:+: text := by
      rw [← holds_eq_false_iff, holds, missing, Option.isSome_none]
    exact absent (starts.isInfix.trans (List.drop_suffix position text).isInfix)
  · intro absent
    cases found : find? pattern text with
    | none => rfl
    | some position => exact absurd (find?_eq_some_iff.mp found).1 (absent position)

def StandsAt (pattern text : Text) (position : Nat) : Prop :=
  ∀ index c, pattern[index]? = some c →
    ∃ d, text[position + index]? = some d ∧ sameLetter c d = true

theorem standsAt_iff {pattern text : Text} {position : Nat} :
    StandsAt pattern text position ↔ pattern.map fold <+: (text.map fold).drop position := by
  rw [List.prefix_iff_getElem?]
  simp only [List.length_map, List.getElem_map, List.getElem?_drop, List.getElem?_map,
    Option.map_eq_some_iff]
  constructor
  · intro stands index inside
    obtain ⟨d, held, same⟩ := stands index pattern[index] (List.getElem?_eq_getElem inside)
    exact ⟨d, held, (beq_iff_eq.mp same).symm⟩
  · intro folded index c held
    obtain ⟨inside, rfl⟩ := List.getElem?_eq_some_iff.mp held
    obtain ⟨d, found, same⟩ := folded index inside
    exact ⟨d, found, beq_iff_eq.mpr same.symm⟩

theorem StandsAt.stop_le {pattern text : Text} {position : Nat}
    (stands : StandsAt pattern text position) (filled : pattern ≠ []) :
    position + pattern.length ≤ text.length := by
  have last := List.getElem?_eq_getElem
    (Nat.sub_one_lt (mt List.length_eq_zero_iff.mp filled))
  obtain ⟨d, held, -⟩ := stands _ _ last
  obtain ⟨inside, -⟩ := List.getElem?_eq_some_iff.mp held
  have positive := List.length_pos_iff.mpr filled
  omega

/-- The part of a text in front of the first line comment, where an empty marker marks none. -/
inductive Uncommented (marker : Text) : Text → Text → Prop
  | whole {text : Text} (absent : marker = [] ∨ ¬marker <:+: text) : Uncommented marker text text
  | cut {kept comment : Text} (filled : marker ≠ [])
      (first : ∀ position < kept.length, ¬marker <+: (kept ++ marker ++ comment).drop position) :
      Uncommented marker (kept ++ marker ++ comment) kept

theorem uncommented_upTo (marker text : Text) : Uncommented marker text (upTo marker text) := by
  unfold upTo
  split
  · rename_i empty
    exact .whole (.inl (List.isEmpty_iff.mp empty))
  · rename_i nonempty
    have filled : marker ≠ [] := mt List.isEmpty_iff.mpr nonempty
    rw [cut?]
    cases found : find? marker text with
    | none =>
        apply Uncommented.whole
        right
        rw [← holds_eq_false_iff, holds, found, Option.isSome_none]
    | some start =>
        obtain ⟨⟨comment, starts⟩, first⟩ := find?_eq_some_iff.mp found
        have parts : text = text.take start ++ marker ++ comment := by
          rw [List.append_assoc, starts, List.take_append_drop]
        have cut := @Uncommented.cut marker (text.take start) comment filled
        rw [← parts] at cut
        apply cut
        intro position before
        exact first position (Nat.lt_of_lt_of_le before (List.length_take_le start text))

theorem Uncommented.lacks_marker {marker text kept : Text}
    (uncommented : Uncommented marker text kept) (filled : marker ≠ []) : ¬marker <:+: kept := by
  cases uncommented with
  | whole absent => exact absent.resolve_left filled
  | @cut _ comment _ first =>
      rintro ⟨front, back, rfl⟩
      have positive := List.length_pos_iff.mpr filled
      apply first front.length
      · simp only [List.length_append]
        omega
      · refine ⟨back ++ marker ++ comment, ?_⟩
        simp [List.append_assoc]

theorem isInfix_strip (text : Text) : strip text <:+: text := by
  have stripStart_suffix : stripStart text <:+ text := List.dropWhile_suffix isBlank
  have stripEnd_prefix : stripEnd (stripStart text) <+: stripStart text := by
    rw [stripEnd, ← List.reverse_suffix, List.reverse_reverse]
    exact List.dropWhile_suffix isBlank
  exact stripEnd_prefix.isInfix.trans stripStart_suffix.isInfix

end Text

namespace Sentinel

open Text

structure ActiveAt (marker sentinel line : Text) (position : Nat) : Prop where
  filled : sentinel ≠ []
  stands : StandsAt sentinel line position
  clear : marker ≠ [] → ∀ earlier ≤ position, ¬marker <+: line.drop earlier

def FirstAt (sentinel line : Text) (position : Nat) : Prop :=
  IsLeast (fun position => StandsAt sentinel line position) position

variable {marker sentinel line : Text} {position : Nat}

theorem occurrence?_eq_some_iff :
    occurrence? sentinel line = some position ↔
      sentinel ≠ [] ∧ FirstAt sentinel line position := by
  unfold occurrence?
  split
  · rename_i empty
    simp [List.isEmpty_iff.mp empty]
  · rename_i nonempty
    have filled : sentinel ≠ [] := mt List.isEmpty_iff.mpr nonempty
    rw [find?_eq_some_iff, ← standsAt_iff]
    constructor
    · rintro ⟨stands, first⟩
      refine ⟨filled, stands, ?_⟩
      intro other otherStands
      by_contra before
      exact first other (Nat.lt_of_not_le before) (standsAt_iff.mp otherStands)
    · rintro ⟨-, stands, least⟩
      refine ⟨stands, ?_⟩
      intro earlier before earlierStands
      exact absurd (least (standsAt_iff.mpr earlierStands)) (Nat.not_le_of_lt before)

theorem occurrence?_ne_none (filled : sentinel ≠ []) (stands : StandsAt sentinel line position) :
    ∃ first ≤ position, occurrence? sentinel line = some first := by
  cases found : occurrence? sentinel line with
  | none =>
      rw [occurrence?, if_neg (mt List.isEmpty_iff.mp filled), find?_eq_none_iff] at found
      exact absurd (standsAt_iff.mp stands) (found position)
  | some first => exact ⟨first, (occurrence?_eq_some_iff.mp found).2.2 stands, rfl⟩

theorem shadowed_eq_false_iff :
    shadowed marker line position = false ↔
      (marker ≠ [] → ∀ earlier ≤ position, ¬marker <+: line.drop earlier) := by
  unfold shadowed
  cases found : Text.find? marker line with
  | none =>
      rw [find?_eq_none_iff] at found
      simp [found]
  | some start =>
      obtain ⟨starts, first⟩ := find?_eq_some_iff.mp found
      cases marker with
      | nil => simp
      | cons c marker =>
          have after :
              position < start ↔ ∀ earlier ≤ position, ¬c :: marker <+: line.drop earlier := by
            constructor
            · intro behind earlier before
              exact first earlier (Nat.lt_of_le_of_lt before behind)
            · intro clear
              by_contra before
              exact clear start (Nat.le_of_not_lt before) starts
          simp [← after]

theorem position?_eq_some_iff :
    position? marker sentinel line = some position ↔
      ActiveAt marker sentinel line position ∧ FirstAt sentinel line position := by
  rw [position?, Option.filter_eq_some_iff, occurrence?_eq_some_iff, Bool.not_eq_true',
    shadowed_eq_false_iff]
  constructor
  · rintro ⟨⟨filled, first⟩, clear⟩
    exact ⟨⟨filled, first.1, clear⟩, first⟩
  · rintro ⟨active, first⟩
    exact ⟨⟨active.filled, first⟩, active.clear⟩

theorem ActiveAt.first (active : ActiveAt marker sentinel line position) :
    ∃ first, position? marker sentinel line = some first := by
  obtain ⟨first, before, found⟩ := occurrence?_ne_none active.filled active.stands
  obtain ⟨-, least⟩ := occurrence?_eq_some_iff.mp found
  refine ⟨first, position?_eq_some_iff.mpr ⟨⟨active.filled, least.1, ?_⟩, least⟩⟩
  intro filled earlier early
  exact active.clear filled earlier (Nat.le_trans early before)

theorem active_iff_exists :
    active marker sentinel line = true ↔ ∃ position, ActiveAt marker sentinel line position := by
  rw [active, Option.isSome_iff_exists]
  constructor
  · rintro ⟨position, found⟩
    exact ⟨position, (position?_eq_some_iff.mp found).1⟩
  · rintro ⟨position, active⟩
    exact active.first

structure Candidate (marker sentinel line : Text) (position : Nat) : Prop where
  active : ∃ position, ActiveAt marker sentinel line position
  first : FirstAt sentinel line position

theorem position?_eq_some_iff_candidate :
    position? marker sentinel line = some position ↔ Candidate marker sentinel line position := by
  constructor
  · intro found
    obtain ⟨active, first⟩ := position?_eq_some_iff.mp found
    exact ⟨⟨position, active⟩, first⟩
  · rintro ⟨⟨other, active⟩, first⟩
    obtain ⟨least, found⟩ := active.first
    rw [found, (position?_eq_some_iff.mp found).2.unique first]

theorem earliest_eq_none_iff {candidates : List Match} :
    earliest candidates = none ↔ candidates = [] := by
  cases candidates with
  | nil => simp
  | cons found others =>
      rw [earliest]
      split
      · simp
      · split <;> simp

/-- A match that starts before all matches in front of it in a list, and not behind any after it. -/
def Match.Leads (found : Match) (candidates : List Match) : Prop :=
  ∃ before after, candidates = before ++ found :: after ∧
    (∀ other ∈ before, found.start < other.start) ∧
    ∀ other ∈ after, found.start ≤ other.start

theorem Match.Leads.start_le {found other : Match} {candidates : List Match}
    (leads : found.Leads candidates) (member : other ∈ candidates) :
    found.start ≤ other.start := by
  obtain ⟨before, after, rfl, early, late⟩ := leads
  rcases List.mem_append.mp member with inFront | behind
  · exact Nat.le_of_lt (early other inFront)
  · rcases List.mem_cons.mp behind with rfl | behind
    · exact Nat.le_refl _
    · exact late other behind

theorem Match.leads_cons_iff {first found : Match} {others : List Match} :
    found.Leads (first :: others) ↔
      (found = first ∧ ∀ other ∈ others, first.start ≤ other.start) ∨
      (found.Leads others ∧ found.start < first.start) := by
  constructor
  · rintro ⟨before, after, split, early, late⟩
    cases before with
    | nil =>
        obtain ⟨rfl, rfl⟩ := List.cons.inj split
        exact .inl ⟨rfl, late⟩
    | cons head before =>
        obtain ⟨rfl, rfl⟩ := List.cons.inj split
        obtain ⟨less, early⟩ := List.forall_mem_cons.mp early
        exact .inr ⟨⟨before, after, rfl, early, late⟩, less⟩
  · rintro (⟨rfl, late⟩ | ⟨⟨before, after, rfl, early, late⟩, less⟩)
    · exact ⟨[], others, rfl, fun _ member => absurd member List.not_mem_nil, late⟩
    · exact ⟨first :: before, after, rfl, List.forall_mem_cons.mpr ⟨less, early⟩, late⟩

theorem earliest_eq_some_iff {candidates : List Match} {found : Match} :
    earliest candidates = some found ↔ found.Leads candidates := by
  induction candidates generalizing found with
  | nil =>
      constructor
      · intro impossible
        cases impossible
      · rintro ⟨before, after, impossible, -⟩
        cases before <;> cases impossible
  | cons first others induction =>
      rw [earliest, Match.leads_cons_iff, ← induction]
      cases rest : earliest others with
      | none => simp [earliest_eq_none_iff.mp rest, eq_comm]
      | some other =>
          have leads : other.Leads others := induction.mp rest
          have least : (∀ another ∈ others, first.start ≤ another.start) ↔
              ¬other.start < first.start := by
            constructor
            · intro early
              obtain ⟨before, after, rfl, -, -⟩ := leads
              exact Nat.not_lt_of_le (early other (by simp))
            · intro late another member
              exact Nat.le_trans (Nat.le_of_not_lt late) (leads.start_le member)
          rw [least]
          -- A later match must start strictly earlier, so on a tie the one in front stays.
          by_cases earlier : other.start < first.start
          · simp only [earlier, if_true, not_true_eq_false, and_false, false_or, Option.some.injEq]
            constructor
            · rintro rfl
              exact ⟨rfl, earlier⟩
            · exact And.left
          · simp only [earlier, if_false, not_false_eq_true, and_true, Option.some.injEq]
            constructor
            · rintro rfl
              exact .inl rfl
            · rintro (rfl | ⟨rfl, less⟩)
              · rfl
              · exact absurd less earlier

theorem match?_eq_some_iff {sentinel : Sentinel} {found : Match} :
    match? marker line sentinel = some found ↔
      Candidate marker sentinel.text line found.start ∧
        found.kind = sentinel.kind ∧ found.stop = found.start + sentinel.text.length := by
  rw [match?, Option.map_eq_some_iff]
  simp only [position?_eq_some_iff_candidate]
  constructor
  · rintro ⟨start, candidate, rfl⟩
    exact ⟨candidate, rfl, rfl⟩
  · rintro ⟨candidate, kind, stop⟩
    refine ⟨found.start, candidate, ?_⟩
    rw [← kind, ← stop]

theorem forall_mem_filterMap_match? {sentinels : List Sentinel} {holds : Nat → Prop} :
    (∀ found ∈ sentinels.filterMap (match? marker line), holds found.start) ↔
      ∀ sentinel ∈ sentinels, ∀ position,
        Candidate marker sentinel.text line position → holds position := by
  simp only [List.mem_filterMap]
  constructor
  · intro all sentinel member position candidate
    let found : Match := ⟨sentinel.kind, position, position + sentinel.text.length⟩
    exact all found ⟨sentinel, member, match?_eq_some_iff.mpr ⟨candidate, rfl, rfl⟩⟩
  · rintro all found ⟨sentinel, member, matched⟩
    exact all sentinel member found.start (match?_eq_some_iff.mp matched).1

/-- The sentinel of a list that decides a line: of the active ones, that with the smallest first
position, and the first of the list among those. -/
def Match.Decides (marker line : Text) (sentinels : List Sentinel) (found : Match) : Prop :=
  ∃ before sentinel after,
    sentinels = before ++ sentinel :: after ∧
    Candidate marker sentinel.text line found.start ∧
    found.kind = sentinel.kind ∧
    found.stop = found.start + sentinel.text.length ∧
    (∀ other ∈ before, ∀ position,
      Candidate marker other.text line position → found.start < position) ∧
    ∀ other ∈ after, ∀ position,
      Candidate marker other.text line position → found.start ≤ position

theorem find?_eq_none_iff_active {sentinels : List Sentinel} :
    find? marker line sentinels = none ↔
      ∀ sentinel ∈ sentinels, active marker sentinel.text line = false := by
  rw [find?, earliest_eq_none_iff, List.filterMap_eq_nil_iff]
  simp [match?, active]

theorem find?_eq_some_iff_decides {sentinels : List Sentinel} {found : Match} :
    find? marker line sentinels = some found ↔ found.Decides marker line sentinels := by
  rw [find?, earliest_eq_some_iff]
  constructor
  · rintro ⟨before, after, matched, early, late⟩
    obtain ⟨front, rest, rfl, rfl, behind⟩ := List.filterMap_eq_append_iff.mp matched
    obtain ⟨silent, sentinel, back, rfl, none, here, rfl⟩ := List.filterMap_eq_cons_iff.mp behind
    obtain ⟨candidate, kind, stop⟩ := match?_eq_some_iff.mp here
    have quiet : (front ++ silent).filterMap (match? marker line) =
        front.filterMap (match? marker line) := by
      rw [List.filterMap_append, List.filterMap_eq_nil_iff.mpr none, List.append_nil]
    rw [← quiet] at early
    exact ⟨front ++ silent, sentinel, back, (List.append_assoc ..).symm, candidate, kind, stop,
      forall_mem_filterMap_match?.mp early, forall_mem_filterMap_match?.mp late⟩
  · rintro ⟨before, sentinel, after, rfl, candidate, kind, stop, early, late⟩
    refine ⟨before.filterMap (match? marker line), after.filterMap (match? marker line), ?_,
      forall_mem_filterMap_match?.mpr early, forall_mem_filterMap_match?.mpr late⟩
    rw [List.filterMap_append,
      List.filterMap_cons_some (match?_eq_some_iff.mpr ⟨candidate, kind, stop⟩)]

theorem Match.Decides.stop_le {sentinels : List Sentinel} {found : Match}
    (decides : found.Decides marker line sentinels) : found.stop ≤ line.length := by
  obtain ⟨before, sentinel, after, -, candidate, -, stop, -, -⟩ := decides
  obtain ⟨position, active⟩ := candidate.active
  rw [stop]
  exact candidate.first.1.stop_le active.filled

theorem uncommented_remainder (marker line : Text) (found : Match) :
    ∃ kept, Uncommented marker (line.drop found.stop) kept ∧
      found.remainder marker line = kept.strip := by
  refine ⟨upTo marker (line.drop found.stop), uncommented_upTo marker _, ?_⟩
  have position : line.dropFrom found.stop = line.drop found.stop := by
    rw [dropFrom, if_neg (by omega), Int.toNat_natCast]
  rw [Match.remainder, remainderFrom, position]

/-- A sentinel is active exactly where it stands in front of every line comment. The search finds
nothing only if no sentinel is active; otherwise it finds the one that decides the line, inside the
line, and what remains is the stripped text behind it up to the next line comment. -/
theorem find?_decides_line (marker line : Text) (sentinels : List Sentinel) :
    (∀ sentinel, active marker sentinel line = true ↔
      ∃ position, ActiveAt marker sentinel line position) ∧
    (find? marker line sentinels = none ↔
      ∀ sentinel ∈ sentinels, active marker sentinel.text line = false) ∧
    (∀ found, find? marker line sentinels = some found ↔ found.Decides marker line sentinels) ∧
    ∀ found, find? marker line sentinels = some found →
      found.stop ≤ line.length ∧
      (∃ kept, Uncommented marker (line.drop found.stop) kept ∧
        found.remainder marker line = kept.strip) ∧
      (marker ≠ [] → ¬marker <:+: found.remainder marker line) := by
  refine ⟨fun _ => active_iff_exists, find?_eq_none_iff_active,
    fun _ => find?_eq_some_iff_decides, ?_⟩
  intro found matched
  obtain ⟨kept, uncommented, remainder⟩ := uncommented_remainder marker line found
  refine ⟨(find?_eq_some_iff_decides.mp matched).stop_le, ⟨kept, uncommented, remainder⟩, ?_⟩
  intro filled occurs
  rw [remainder] at occurs
  exact uncommented.lacks_marker filled (occurs.trans (isInfix_strip kept))

/-- Two sentinels that stand at the same place, in front of a third one and of one that is shadowed
by a comment. -/
theorem find?_decides_line_tie :
    let line := "x Out: a SUM: b // In:".toList
    let sentinels : List Sentinel := [⟨.summary, "Sum:".toList⟩, ⟨.parameters, "In:".toList⟩,
      ⟨.returns, "out:".toList⟩, ⟨.outside, "OUT".toList⟩]
    let found : Match := ⟨.returns, 2, 6⟩
    find? "//".toList line sentinels = some found ∧
      found.Decides "//".toList line sentinels ∧
      found.remainder "//".toList line = "a SUM: b".toList ∧
      ¬"//".toList <:+: found.remainder "//".toList line := by
  intro line sentinels found
  have matched : find? "//".toList line sentinels = some found := by decide +kernel
  obtain ⟨-, -, decides, remains⟩ := find?_decides_line "//".toList line sentinels
  exact ⟨matched, (decides found).mp matched, by decide +kernel,
    (remains found matched).2.2 (by decide)⟩

end Sentinel

end Docblock

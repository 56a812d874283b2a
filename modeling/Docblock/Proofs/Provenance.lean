import Docblock.Proofs.Segment

namespace Docblock

namespace Text

variable {p : Char → Prop}

/-- A text all of whose characters satisfy a property. -/
def Over (p : Char → Prop) (text : Text) : Prop :=
  ∀ c ∈ text, p c

theorem Over.subset {text part : Text} (drawn : Over p text) (included : part ⊆ text) :
    Over p part :=
  fun c member => drawn c (included member)

@[simp] theorem over_nil : Over p [] := by
  intro c member
  cases member

@[simp] theorem over_cons {c : Char} {text : Text} : Over p (c :: text) ↔ p c ∧ Over p text :=
  List.forall_mem_cons

@[simp] theorem over_append {first second : Text} :
    Over p (first ++ second) ↔ Over p first ∧ Over p second :=
  List.forall_mem_append

theorem stripStart_subset (text : Text) : stripStart text ⊆ text :=
  (List.dropWhile_sublist isBlank).subset

theorem stripEnd_subset (text : Text) : stripEnd text ⊆ text := by
  intro c member
  have kept := (List.dropWhile_sublist isBlank).subset (List.mem_reverse.mp member)
  exact List.mem_reverse.mp kept

theorem strip_subset (text : Text) : strip text ⊆ text :=
  List.Subset.trans (stripEnd_subset _) (stripStart_subset text)

theorem dropFrom_subset (text : Text) (position : Int) : dropFrom text position ⊆ text := by
  unfold dropFrom
  split <;> exact List.drop_subset _ _

theorem stripBreak_subset (text : Text) : stripBreak text ⊆ text := by
  intro c member
  unfold stripBreak at member
  split at member
  · rename_i rest ending
    apply List.mem_reverse.mp
    rw [ending]
    exact List.mem_cons_of_mem _ (List.mem_cons_of_mem _ (List.mem_reverse.mp member))
  · rename_i rest _ ending
    apply List.mem_reverse.mp
    rw [ending]
    exact List.mem_cons_of_mem _ (List.mem_reverse.mp member)
  · rename_i rest ending
    apply List.mem_reverse.mp
    rw [ending]
    exact List.mem_cons_of_mem _ (List.mem_reverse.mp member)
  · exact member

theorem cut?_subset {text pattern before after : Text}
    (found : text.cut? pattern = some (before, after)) : before ⊆ text ∧ after ⊆ text := by
  obtain ⟨start, -, parts⟩ := Option.map_eq_some_iff.mp found
  obtain ⟨rfl, rfl⟩ := Prod.mk.inj parts
  exact ⟨List.take_subset _ _, List.drop_subset _ _⟩

theorem upTo_subset (marker text : Text) : upTo marker text ⊆ text := by
  unfold upTo
  split
  · exact fun c member => member
  · cases found : text.cut? marker with
    | none => exact fun c member => member
    | some parts => exact (cut?_subset found).1

theorem Over.join {texts : List Text} (all : ∀ text ∈ texts, Over p text) :
    Over (fun c => p c ∨ c = '\n') (join ['\n'] texts) := by
  fun_induction Text.join ['\n'] texts with
  | case1 => exact fun c member => absurd member List.not_mem_nil
  | case2 text =>
      intro c member
      exact .inl (all text List.mem_cons_self c member)
  | case3 text texts _ induction =>
      intro c member
      simp only [List.append_assoc, List.singleton_append, List.mem_append, List.mem_cons] at member
      rcases member with inFirst | rfl | inRest
      · exact .inl (all text List.mem_cons_self c inFirst)
      · exact .inr rfl
      · exact induction (fun other member => all other (List.mem_cons_of_mem text member)) c inRest

theorem mem_of_mem_split {separator : Char} {text piece : Text}
    (member : piece ∈ split separator text) : ∀ c ∈ piece, c ∈ text ∧ c ≠ separator := by
  induction text generalizing piece with
  | nil =>
      rw [List.mem_singleton.mp member]
      exact fun c member => absurd member List.not_mem_nil
  | cons first text induction =>
      have later : ∀ {piece}, piece ∈ split separator text →
          ∀ c ∈ piece, c ∈ first :: text ∧ c ≠ separator := by
        intro piece member c inside
        exact ⟨List.mem_cons_of_mem first (induction member c inside).1,
          (induction member c inside).2⟩
      rw [split] at member
      split at member
      · rcases List.mem_cons.mp member with rfl | member
        · exact fun c member => absurd member List.not_mem_nil
        · exact later member
      · rename_i other
        cases pieces : split separator text with
        | nil => exact absurd pieces (split_ne_nil separator text)
        | cons head tail =>
            rw [pieces] at member
            rcases List.mem_cons.mp member with rfl | member
            · intro c inside
              rcases List.mem_cons.mp inside with rfl | inside
              · exact ⟨List.mem_cons_self, other⟩
              · exact later (by rw [pieces]; exact List.mem_cons_self) c inside
            · exact later (by rw [pieces]; exact List.mem_cons_of_mem head member)

end Text

namespace Section

theorem beforeClosing_subset (closing text : Text) : beforeClosing closing text ⊆ text := by
  simp only [beforeClosing]
  split
  · exact List.Subset.trans (Text.stripEnd_subset _)
      (List.Subset.trans (List.take_subset _ _) (Text.stripEnd_subset text))
  · exact fun c member => member

theorem texts_subset {closing text : Text} {block : List Line}
    (member : text ∈ texts closing block) : ∃ line ∈ block, text ⊆ line.body := by
  fun_induction texts closing block with
  | case1 => cases member
  | case2 line =>
      rw [List.mem_singleton.mp member]
      exact ⟨line, List.mem_cons_self, beforeClosing_subset closing line.body⟩
  | case3 line lines _ induction =>
      rcases List.mem_cons.mp member with rfl | member
      · exact ⟨line, List.mem_cons_self, fun c member => member⟩
      · obtain ⟨found, inBlock, included⟩ := induction member
        exact ⟨found, List.mem_cons_of_mem line inBlock, included⟩

end Section

namespace Segment

theorem remainderItem_subset {config : Config} {text item : Text} {found : Sentinel.Match}
    (member : item ∈ remainderItem config text found) : item ⊆ text := by
  simp only [remainderItem] at member
  split at member
  · cases member
  · rw [List.mem_singleton.mp member]
    exact List.Subset.trans (Text.strip_subset _)
      (List.Subset.trans (Text.upTo_subset _ _) (Text.dropFrom_subset text _))

theorem following_subset {config : Config} {kind : SectionKind} {texts : List Text} :
    following config kind texts ⊆ texts := by
  induction texts with
  | nil => exact fun text member => member
  | cons text texts induction =>
      intro item member
      simp only [following] at member
      split at member
      · cases member
      · split at member
        · cases member
        · rcases List.mem_cons.mp member with rfl | member
          · exact List.mem_cons_self
          · exact List.mem_cons_of_mem text (induction member)

theorem cut_subset {config : Config} {texts : List Text} {segment : Segment} {item : Text}
    (inCut : segment ∈ cut config texts) (member : item ∈ segment.items) :
    ∃ text ∈ texts, item ⊆ text := by
  induction texts with
  | nil => cases inCut
  | cons text texts induction =>
      have later : segment ∈ cut config texts → ∃ text' ∈ text :: texts, item ⊆ text' := by
        intro inRest
        obtain ⟨found, inTexts, included⟩ := induction inRest
        exact ⟨found, List.mem_cons_of_mem text inTexts, included⟩
      rw [cut] at inCut
      split at inCut
      · exact later inCut
      · rcases List.mem_cons.mp inCut with rfl | inRest
        · rcases List.mem_append.mp member with onLine | behind
          · exact ⟨text, List.mem_cons_self, remainderItem_subset onLine⟩
          · exact ⟨item, List.mem_cons_of_mem text (following_subset behind),
              fun c member => member⟩
        · exact later inRest

variable {p : Char → Prop}

theorem continued_subset {config : Config} {items : List Text} : continued config items ⊆ items :=
  (List.takeWhile_sublist _).subset

theorem entries_over {config : Config} {items : List Text} (space : p ' ')
    (all : ∀ item ∈ items, Text.Over p item) {entry : Entry}
    (member : entry ∈ entries config items) :
    Text.Over p entry.name ∧ ∀ text ∈ entry.body, Text.Over p text := by
  induction items with
  | nil => cases member
  | cons item items induction =>
      have rest : ∀ other ∈ items, Text.Over p other :=
        fun other member => all other (List.mem_cons_of_mem item member)
      rw [entries] at member
      split at member
      · exact induction rest member
      · rename_i name description found
        rcases List.mem_cons.mp member with rfl | member
        · have parts := Text.cut?_subset found
          have drawn := all item List.mem_cons_self
          have first : Text.Over p (' ' :: description) := by
            intro c member
            rcases List.mem_cons.mp member with rfl | member
            · exact space
            · exact drawn c (parts.2 member)
          refine ⟨drawn.subset (List.Subset.trans (Text.strip_subset name) parts.1), ?_⟩
          intro text inBody
          have source : text = ' ' :: description ∨ text ∈ continued config items := by
            cases continuation : config.continuation <;>
              simp_all [entryBody, or_comm]
          rcases source with rfl | inRest
          · exact first
          · exact rest text (continued_subset inRest)
        · exact induction rest member

end Segment

def Tags.texts (tags : Tags) : List Text :=
  [tags.summary, tags.param, tags.returns, tags.paramAttr]

def Fragment.signs : Text :=
  [' ', '<', '>', '/', '=', '"']

/-- A fragment with a configured tag, whose body lines and parameter name satisfy a property
character by character. -/
structure Fragment.Over (config : Config) (p : Char → Prop) (fragment : Fragment) : Prop where
  tag : fragment.tag ∈ [config.tags.summary, config.tags.param, config.tags.returns]
  body : ∀ line ∈ fragment.bodyLines, Text.Over p line
  attr : fragment.attr = none ∨ ∃ name, Text.Over p name ∧
    fragment.attr = some (config.tags.paramAttr ++ ['=', '"'] ++ name ++ ['"'])

theorem Text.Over.split_join {p : Char → Prop} {texts : List Text}
    (all : ∀ text ∈ texts, Over p text) :
    ∀ line ∈ Text.split '\n' (Text.join ['\n'] texts), Over p line := by
  intro line member c inside
  obtain ⟨inBody, notSeparator⟩ := mem_of_mem_split member c inside
  exact (Over.join all c inBody).resolve_right notSeparator

namespace Segment

variable {p : Char → Prop}

theorem fragments_over {config : Config} {indent : Int} {segment : Segment} (space : p ' ')
    (all : ∀ item ∈ segment.items, Text.Over p item) :
    ∀ fragment ∈ segment.fragments config indent, fragment.Over config p := by
  intro fragment member
  obtain ⟨kind, items⟩ := segment
  cases kind with
  | outside => cases member
  | summary =>
      rw [List.mem_singleton.mp member]
      refine ⟨by simp, Text.Over.split_join ?_, .inl rfl⟩
      exact fun text kept => all text (List.mem_filter.mp kept).1
  | parameters =>
      obtain ⟨entry, inEntries, rfl⟩ := List.mem_map.mp member
      have drawn := entries_over space all inEntries
      exact ⟨by simp, Text.Over.split_join drawn.2, .inr ⟨entry.name, drawn.1, rfl⟩⟩
  | returns =>
      simp only [fragments] at member
      split at member
      · cases member
      · rw [List.mem_singleton.mp member]
        exact ⟨by simp, Text.Over.split_join all, .inl rfl⟩

theorem reading_over {config : Config} {indent : Int} {block : List Line} (space : p ' ')
    (all : ∀ line ∈ block, Text.Over p line.body) :
    ∀ fragment ∈ reading config indent block, fragment.Over config p := by
  intro fragment member
  obtain ⟨segment, inCut, inSegment⟩ := List.mem_flatMap.mp member
  refine fragments_over space ?_ fragment inSegment
  intro item inItems
  obtain ⟨text, inTexts, included⟩ := cut_subset inCut inItems
  obtain ⟨line, inBlock, inBody⟩ := Section.texts_subset inTexts
  exact (all line inBlock).subset (List.Subset.trans included inBody)

end Segment

namespace Fragment

variable {config : Config} {fragment : Fragment} {p : Char → Prop}

theorem Over.tagText (drawn : fragment.Over config p)
    (tags : ∀ text ∈ config.tags.texts, Text.Over p text) : Text.Over p fragment.tag := by
  apply tags
  have member := drawn.tag
  simp only [List.mem_cons, List.not_mem_nil, or_false] at member
  rcases member with tag | tag | tag
  · simp [Tags.texts, tag]
  · simp [Tags.texts, tag]
  · simp [Tags.texts, tag]

theorem Over.attributeText (drawn : fragment.Over config p)
    (tags : ∀ text ∈ config.tags.texts, Text.Over p text) (sign : ∀ c ∈ signs, p c) :
    Text.Over p fragment.attributeText := by
  have filled : ∀ attr, fragment.attr = some attr → Text.Over p (' ' :: attr) := by
    intro attr found
    rcases drawn.attr with none | ⟨name, overName, some⟩
    · cases none.symm.trans found
    · obtain rfl := Option.some.inj (some.symm.trans found)
      have key : Text.Over p config.tags.paramAttr := tags _ (by simp [Tags.texts])
      simp only [Text.over_cons, Text.over_append, Text.over_nil, and_true]
      exact ⟨sign _ (by decide), ⟨⟨key, sign _ (by decide), sign _ (by decide)⟩, overName⟩,
        sign _ (by decide)⟩
  unfold Fragment.attributeText
  split
  · exact Text.over_nil
  · exact Text.over_nil
  · rename_i attr _ found
    exact filled attr found

theorem Over.content (drawn : fragment.Over config p)
    (tags : ∀ text ∈ config.tags.texts, Text.Over p text) (sign : ∀ c ∈ signs, p c)
    {content : Text}
    (member : content ∈ fragment.openTag :: fragment.bodyLines ++ [fragment.closeTag]) :
    Text.Over p content := by
  have tag := drawn.tagText tags
  rcases List.mem_cons.mp member with rfl | inside
  · simp only [openTag, List.cons_append, Text.over_cons, Text.over_append, Text.over_nil, and_true]
    exact ⟨sign _ (by decide), ⟨tag, drawn.attributeText tags sign⟩, sign _ (by decide)⟩
  · rcases List.mem_append.mp inside with inBody | atEnd
    · exact drawn.body content inBody
    · rw [List.mem_singleton.mp atEnd]
      simp only [closeTag, Text.over_cons, Text.over_append, Text.over_nil, and_true]
      exact ⟨⟨⟨sign _ (by decide), sign _ (by decide)⟩, tag⟩, sign _ (by decide)⟩

theorem over_lead {doc : Text} (drawn : Text.Over p doc) (space : p ' ') :
    Text.Over p (fragment.lead doc) := by
  simp only [lead, Text.over_cons, Text.over_append, Text.over_nil, and_true]
  refine ⟨⟨?_, drawn⟩, space⟩
  intro c member
  rw [List.eq_of_mem_replicate member]
  exact space

end Fragment

end Docblock

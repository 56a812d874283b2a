import Docblock.Proofs.Refusal

namespace Docblock

inductive Value.IsJson : Value → Prop
  | null : IsJson .null
  | bool (value : Bool) : IsJson (.bool value)
  | int (value : Int) : IsJson (.int value)
  | float (value : Binary64) : IsJson (.float value)
  | text (value : Text) : IsJson (.text value)
  | list {items : List Value} (all : ∀ item ∈ items, IsJson item) : IsJson (.list items)
  | map {entries : Entries} (keys : ∀ entry ∈ entries, ∃ name, entry.1.text? = some name)
      (all : ∀ entry ∈ entries, IsJson entry.2) : IsJson (.map entries)

def Value.IsFilled (value : Value) : Prop :=
  ∃ text, value.text? = some text ∧ text ≠ []

namespace Entries

def Named (names : List String) (entries : Entries) : Prop :=
  ∀ entry ∈ entries, ∃ name ∈ names, entry.1 = .text name.toList

def Given (name : String) (valid : Value → Prop) (entries : Entries) : Prop :=
  ∀ found, Value.lookup? name.toList entries = some found → valid found

def Texts (names : List String) (entries : Entries) : Prop :=
  entries.Named names ∧ ∀ name ∈ names, entries.Given name Value.IsFilled

end Entries

open Entries

def Value.IsContinuation (value : Value) : Prop :=
  ∃ choice : Continuation, value = .text choice.name

def Value.IsOpenTail (value : Value) : Prop :=
  ∃ choice : OpenTail, value = .text choice.name

def Value.IsNewline (value : Value) : Prop :=
  value = .null ∨ ∃ newline : Newline, value = .text newline.text

def Value.IsEncoding (value : Value) : Prop :=
  value = .null ∨ ∃ text, value.text? = some text

def Value.IsGroup (names : List String) (value : Value) : Prop :=
  value = .null ∨ ∃ entries, ofMapping? value = some entries ∧ entries.Texts names

structure Entries.Describe (entries : Entries) : Prop where
  named : entries.Named Config.keys
  continuation : entries.Given "param_continuation" Value.IsContinuation
  openTail : entries.Given "on_unterminated" Value.IsOpenTail
  newline : entries.Given "newline" Value.IsNewline
  encoding : entries.Given "encoding" Value.IsEncoding
  markers : entries.Given "markers" (Value.IsGroup Markers.keys)
  sentinels : entries.Given "sentinels" (Value.IsGroup Sentinels.keys)
  tags : entries.Given "tags" (Value.IsGroup Tags.keys)

def Value.Describes (value : Value) : Prop :=
  value.isVoid = true ∨ ∃ entries, ofMapping? value = some entries ∧ entries.Describe

/-- An option that has to be shown is not in order and cannot be shown, and all that is checked
before it is in order. -/
inductive Entries.Unreported (room : Nat) (entries : Entries) (cause : Defect) : Prop
  | continuation (named : entries.Named Config.keys)
      (refused : ¬entries.Given "param_continuation" Value.IsContinuation)
      (unshown : entries.Unshown room "param_continuation" cause) : Unreported room entries cause
  | openTail (named : entries.Named Config.keys)
      (continuation : entries.Given "param_continuation" Value.IsContinuation)
      (refused : ¬entries.Given "on_unterminated" Value.IsOpenTail)
      (unshown : entries.Unshown room "on_unterminated" cause) : Unreported room entries cause
  | newline (named : entries.Named Config.keys)
      (continuation : entries.Given "param_continuation" Value.IsContinuation)
      (openTail : entries.Given "on_unterminated" Value.IsOpenTail)
      (refused : ¬entries.Given "newline" Value.IsNewline)
      (unshown : entries.Unshown room "newline" cause) : Unreported room entries cause

namespace Entries

def supplied? (name : String) (entries : Entries) : Option Text :=
  (Value.lookup? name.toList entries).bind Value.text?

def members (name : String) (entries : Entries) : Entries :=
  ((Value.lookup? name.toList entries).bind ofMapping?).getD []

def completed (defaults : List (String × Text)) (entries : Entries) : List (String × Text) :=
  defaults.map fun field => (field.1, (entries.supplied? field.1).getD field.2)

def ofFields (fields : List (String × Text)) : Entries :=
  fields.map fun field => (.text field.1.toList, .text field.2)

end Entries

def Value.entries (value : Value) : Entries :=
  (ofMapping? value).getD []

def Markers.fields (markers : Markers) : List (String × Text) :=
  [("open", markers.opening), ("close", markers.closing), ("line_comment", markers.lineComment),
    ("doc", markers.doc)]

def Sentinels.fields (sentinels : Sentinels) : List (String × Text) :=
  [("summary", sentinels.summary), ("parameters", sentinels.parameters),
    ("returns", sentinels.returns), ("description", sentinels.description),
    ("param_separator", sentinels.separator), ("returns_none", sentinels.noValue)]

def Tags.fields (tags : Tags) : List (String × Text) :=
  [("summary", tags.summary), ("param", tags.param), ("returns", tags.returns),
    ("param_attr", tags.paramAttr)]

namespace Config

def fields (config : Config) : List (String × Text) :=
  config.markers.fields ++ config.sentinels.fields ++ config.tags.fields

def entries (config : Config) : Entries :=
  [(.text "markers".toList, .map (ofFields config.markers.fields)),
    (.text "sentinels".toList, .map (ofFields config.sentinels.fields)),
    (.text "tags".toList, .map (ofFields config.tags.fields)),
    (.text "param_continuation".toList, .text config.continuation.name),
    (.text "on_unterminated".toList, .text config.openTail.name),
    (.text "newline".toList, (config.newline.map fun newline => .text newline.text).getD .null),
    (.text "encoding".toList, (config.encoding.map .text).getD .null)]

structure Completes (config : Config) (entries : Entries) : Prop where
  continuation : config.continuation.name =
    (entries.supplied? "param_continuation").getD ({} : Config).continuation.name
  openTail : config.openTail.name =
    (entries.supplied? "on_unterminated").getD ({} : Config).openTail.name
  newline : config.newline.map Newline.text = entries.supplied? "newline"
  encoding : config.encoding = entries.supplied? "encoding"
  markers : config.markers.fields = (entries.members "markers").completed ({} : Markers).fields
  sentinels : config.sentinels.fields =
    (entries.members "sentinels").completed ({} : Sentinels).fields
  tags : config.tags.fields = (entries.members "tags").completed ({} : Tags).fields

end Config

theorem bind_eq_ok_iff {ε α β : Type} {first : Except ε α} {next : α → Except ε β} {result : β} :
    (first >>= next) = .ok result ↔ ∃ value, first = .ok value ∧ next value = .ok result := by
  constructor
  · exact exists_of_bind_eq_ok
  · intro ⟨value, passed, rest⟩
    rw [passed]
    exact rest

theorem Value.mem_of_lookup? {name : Text} {found : Value} {entries : Entries}
    (held : lookup? name entries = some found) : (.text name, found) ∈ entries := by
  fun_induction lookup? name entries with
  | case1 => cases held
  | case2 value rest =>
      cases held
      exact List.mem_cons_self
  | case3 key value rest other induction => exact List.mem_cons_of_mem _ (induction held)
  | case4 entry rest unnamed induction => exact List.mem_cons_of_mem _ (induction held)

namespace Entries

variable {entries : Entries} {name : String}

theorem given_of_absent {valid : Value → Prop}
    (absent : Value.lookup? name.toList entries = none) : entries.Given name valid := by
  simp [Given, absent]

theorem given_iff {valid : Value → Prop} {found : Value}
    (held : Value.lookup? name.toList entries = some found) :
    entries.Given name valid ↔ valid found := by
  simp [Given, held]

theorem checkKeys_eq_ok_iff {scope : String} {names : List String} :
    checkKeys scope names entries = .ok () ↔ entries.Named names := by
  have known : ∀ key, isKnown (names.map String.toList) key = true ↔
      ∃ name ∈ names, key = .text name.toList := by
    intro key
    cases key <;> simp [isKnown, eq_comm]
  have all : unknown (names.map String.toList) entries = [] ↔ entries.Named names := by
    simp only [unknown, List.filter_eq_nil_iff, List.forall_mem_map, Bool.not_eq_true',
      Bool.not_eq_false, known]
    rfl
  rw [← all]
  unfold checkKeys
  split
  · rename_i none
    exact iff_of_true rfl none
  · rename_i keys some
    apply iff_of_false
    · intro passed
      split at passed <;> cases passed
    · exact some

theorem checkKeys_bind_eq_ok_iff {α : Type} {scope : String} {names : List String}
    {rest : Unit → Except Failure α} {result : α} :
    (checkKeys scope names entries >>= rest) = .ok result ↔
      entries.Named names ∧ rest () = .ok result := by
  rw [bind_eq_ok_iff, ← checkKeys_eq_ok_iff]
  exact ⟨fun ⟨(), passed⟩ => passed, fun passed => ⟨(), passed⟩⟩

theorem text_eq_ok_iff {scope : String} {fallback result : Text} :
    text scope name fallback entries = .ok result ↔
      entries.Given name Value.IsFilled ∧ result = (entries.supplied? name).getD fallback := by
  unfold text supplied?
  cases held : Value.lookup? name.toList entries with
  | none => simp [given_of_absent held, eq_comm]
  | some found =>
      simp only [given_iff held, Value.IsFilled, Option.bind_some]
      cases found.text? with
      | none => simp
      | some text => cases text <;> simp [eq_comm]

theorem text_bind_eq_ok_iff {α : Type} {scope : String} {fallback : Text}
    {next : Text → Except Failure α} {result : α} :
    (text scope name fallback entries >>= next) = .ok result ↔
      entries.Given name Value.IsFilled ∧
        next ((entries.supplied? name).getD fallback) = .ok result := by
  simp [bind_eq_ok_iff, text_eq_ok_iff, and_assoc]

theorem refuse_ne_ok {α : Type} {room : Nat} {error : Value → ConfigError} {found : Value}
    {result : α} : refuse room error found ≠ .ok result := by
  intro passed
  exact not_passes_refuse ⟨result, passed⟩

theorem ne_spelling {α : Type} {choose? : Text → Option α} {spelling : α → Text} {text : Text}
    (knows : ∀ text chosen, choose? text = some chosen ↔ text = spelling chosen)
    (unknown : choose? text = none) (chosen : α) : text ≠ spelling chosen := by
  intro same
  rw [← knows, unknown] at same
  cases same

theorem choice_eq_ok_iff {α : Type} {choose? : Text → Option α} {spelling : α → Text}
    (knows : ∀ text chosen, choose? text = some chosen ↔ text = spelling chosen)
    {room : Nat} {error : Value → ConfigError} {fallback chosen : α} :
    choice room choose? error name fallback entries = .ok chosen ↔
      entries.Given name (fun found => ∃ chosen, found = .text (spelling chosen)) ∧
        spelling chosen = (entries.supplied? name).getD (spelling fallback) := by
  -- A name that two choices shared would be known as both.
  have spelling_inj : ∀ first second, spelling first = spelling second ↔ second = first := by
    intro first second
    rw [← knows, (knows (spelling first) first).mpr rfl, Option.some.injEq, eq_comm]
  unfold choice supplied?
  cases held : Value.lookup? name.toList entries with
  | none => simp [given_of_absent held, spelling_inj]
  | some found =>
      rw [given_iff held]
      cases found with
      | text text =>
          cases chose : choose? text with
          | none => simp [chose, refuse_ne_ok, ne_spelling knows chose]
          | some other =>
              have same := (knows text other).mp chose
              rw [same] at chose
              simp [same, chose, Value.text?, spelling_inj]
      | _ => simp [refuse_ne_ok]

end Entries

theorem find?_spelling_eq_some_iff {α : Type} {choices : List α} {spelling : α → Text}
    (each : ∀ choice, choices.find? (spelling · == spelling choice) = some choice)
    (text : Text) (choice : α) :
    choices.find? (spelling · == text) = some choice ↔ text = spelling choice := by
  constructor
  · intro found
    have named := List.find?_some found
    exact (beq_iff_eq.mp named).symm
  · intro named
    rw [named]
    exact each choice

theorem Continuation.ofText?_eq_some_iff (text : Text) (choice : Continuation) :
    ofText? text = some choice ↔ text = choice.name := by
  apply find?_spelling_eq_some_iff
  intro choice
  cases choice <;> decide

theorem OpenTail.ofText?_eq_some_iff (text : Text) (choice : OpenTail) :
    ofText? text = some choice ↔ text = choice.name := by
  apply find?_spelling_eq_some_iff
  intro choice
  cases choice <;> decide

theorem Newline.ofText?_eq_some_iff (text : Text) (newline : Newline) :
    ofText? text = some newline ↔ text = newline.text := by
  apply find?_spelling_eq_some_iff
  intro newline
  cases newline <;> decide

namespace Entries

variable {entries : Entries} {name : String}

theorem newline?_eq_ok_iff {room : Nat} {newline : Option Newline} :
    newline? room entries = .ok newline ↔
      entries.Given "newline" Value.IsNewline ∧
        newline.map Newline.text = entries.supplied? "newline" := by
  unfold newline? supplied?
  cases held : Value.lookup? "newline".toList entries with
  | none => simp [given_of_absent held, eq_comm]
  | some found =>
      rw [given_iff held]
      cases found with
      | null => simp [Value.IsNewline, Value.text?, eq_comm]
      | text text =>
          cases chose : Newline.ofText? text with
          | none =>
              have unknown := ne_spelling Newline.ofText?_eq_some_iff chose
              simp [chose, refuse_ne_ok, Value.IsNewline, unknown]
          | some other =>
              have same := (Newline.ofText?_eq_some_iff text other).mp chose
              have valid : Value.IsNewline (.text text) := .inr ⟨other, congrArg Value.text same⟩
              have spelt : ∀ newline : Newline, newline.text = text ↔ other = newline := by
                intro newline
                rw [eq_comm, ← Newline.ofText?_eq_some_iff, chose, Option.some.injEq]
              cases newline <;> simp [chose, valid, spelt, Value.text?]
      | _ => simp [refuse_ne_ok, Value.IsNewline]

theorem encoding?_eq_ok_iff {encoding : Option Text} :
    encoding? entries = .ok encoding ↔
      entries.Given "encoding" Value.IsEncoding ∧ encoding = entries.supplied? "encoding" := by
  unfold encoding? supplied?
  cases held : Value.lookup? "encoding".toList entries with
  | none => simp [given_of_absent held, eq_comm]
  | some found =>
      rw [given_iff held]
      cases found <;> simp [Value.IsEncoding, Value.text?, eq_comm]

theorem texts_nil (names : List String) : Texts names [] := by
  simp [Texts, Named, Given]

theorem group_bind_eq_ok_iff {α : Type} {names : List String} {read : Entries → Except Failure α}
    {result : α} {P : Entries → Prop}
    (reads : ∀ entries, read entries = .ok result ↔ entries.Texts names ∧ P entries) :
    (group name entries >>= read) = .ok result ↔
      entries.Given name (Value.IsGroup names) ∧ P (entries.members name) := by
  have void := texts_nil names
  unfold group members
  cases held : Value.lookup? name.toList entries with
  | none =>
      apply (reads []).trans
      simp [void, given_of_absent held]
  | some found =>
      rw [given_iff held]
      cases found with
      | null =>
          apply (reads []).trans
          simp [void, Value.IsGroup, ofMapping?]
      | map inner =>
          apply (reads inner).trans
          simp [Value.IsGroup, ofMapping?]
      | ordered inner =>
          apply (reads inner).trans
          simp [Value.IsGroup, ofMapping?]
      | _ =>
          simp [Value.IsGroup, ofMapping?, bind, Except.bind]

end Entries

theorem Markers.ofEntries_eq_ok_iff {entries : Entries} {markers : Markers} :
    ofEntries entries = .ok markers ↔
      entries.Texts keys ∧ markers.fields = entries.completed ({} : Markers).fields := by
  rw [eq_comm (a := markers.fields)]
  cases markers
  simp [ofEntries, checkKeys_bind_eq_ok_iff, text_bind_eq_ok_iff, Texts, fields, keys, completed,
    pure, Except.pure, and_assoc]

theorem Sentinels.ofEntries_eq_ok_iff {entries : Entries} {sentinels : Sentinels} :
    ofEntries entries = .ok sentinels ↔
      entries.Texts keys ∧ sentinels.fields = entries.completed ({} : Sentinels).fields := by
  rw [eq_comm (a := sentinels.fields)]
  cases sentinels
  simp [ofEntries, checkKeys_bind_eq_ok_iff, text_bind_eq_ok_iff, Texts, fields, keys, completed,
    pure, Except.pure, and_assoc]

theorem Tags.ofEntries_eq_ok_iff {entries : Entries} {tags : Tags} :
    ofEntries entries = .ok tags ↔
      entries.Texts keys ∧ tags.fields = entries.completed ({} : Tags).fields := by
  rw [eq_comm (a := tags.fields)]
  cases tags
  simp [ofEntries, checkKeys_bind_eq_ok_iff, text_bind_eq_ok_iff, Texts, fields, keys, completed,
    pure, Except.pure, and_assoc]

namespace Entries

variable {entries : Entries}

theorem continuation?_eq_ok_iff {room : Nat} {choice : Continuation} :
    continuation? room entries = .ok choice ↔
      entries.Given "param_continuation" Value.IsContinuation ∧ choice.name =
        (entries.supplied? "param_continuation").getD ({} : Config).continuation.name :=
  choice_eq_ok_iff Continuation.ofText?_eq_some_iff

theorem openTail?_eq_ok_iff {room : Nat} {choice : OpenTail} :
    openTail? room entries = .ok choice ↔
      entries.Given "on_unterminated" Value.IsOpenTail ∧ choice.name =
        (entries.supplied? "on_unterminated").getD ({} : Config).openTail.name :=
  choice_eq_ok_iff OpenTail.ofText?_eq_some_iff

theorem markers?_eq_ok_iff {markers : Markers} :
    entries.markers? = .ok markers ↔
      entries.Given "markers" (Value.IsGroup Markers.keys) ∧
        markers.fields = (entries.members "markers").completed ({} : Markers).fields :=
  group_bind_eq_ok_iff fun _ => Markers.ofEntries_eq_ok_iff

theorem sentinels?_eq_ok_iff {sentinels : Sentinels} :
    entries.sentinels? = .ok sentinels ↔
      entries.Given "sentinels" (Value.IsGroup Sentinels.keys) ∧
        sentinels.fields = (entries.members "sentinels").completed ({} : Sentinels).fields :=
  group_bind_eq_ok_iff fun _ => Sentinels.ofEntries_eq_ok_iff

theorem tags?_eq_ok_iff {tags : Tags} :
    entries.tags? = .ok tags ↔
      entries.Given "tags" (Value.IsGroup Tags.keys) ∧
        tags.fields = (entries.members "tags").completed ({} : Tags).fields :=
  group_bind_eq_ok_iff fun _ => Tags.ofEntries_eq_ok_iff

end Entries

namespace Config

variable {entries : Entries} {config : Config}

theorem ofEntries_eq_ok_iff {room : Nat} :
    ofEntries room entries = .ok config ↔ entries.Describe ∧ config.Completes entries := by
  rw [ofEntries_eq]
  constructor
  · intro passed
    obtain ⟨_, named, passed⟩ := exists_of_bind_eq_ok passed
    obtain ⟨continuation, continued, passed⟩ := exists_of_bind_eq_ok passed
    obtain ⟨openTail, ended, passed⟩ := exists_of_bind_eq_ok passed
    obtain ⟨newline, broken, passed⟩ := exists_of_bind_eq_ok passed
    obtain ⟨encoding, encoded, passed⟩ := exists_of_bind_eq_ok passed
    obtain ⟨markers, marked, passed⟩ := exists_of_bind_eq_ok passed
    obtain ⟨sentinels, watched, passed⟩ := exists_of_bind_eq_ok passed
    obtain ⟨tags, tagged, passed⟩ := exists_of_bind_eq_ok passed
    cases passed
    rw [checkKeys_eq_ok_iff] at named
    rw [continuation?_eq_ok_iff] at continued
    rw [openTail?_eq_ok_iff] at ended
    rw [newline?_eq_ok_iff] at broken
    rw [encoding?_eq_ok_iff] at encoded
    rw [markers?_eq_ok_iff] at marked
    rw [sentinels?_eq_ok_iff] at watched
    rw [tags?_eq_ok_iff] at tagged
    exact ⟨⟨named, continued.1, ended.1, broken.1, encoded.1, marked.1, watched.1, tagged.1⟩,
      ⟨continued.2, ended.2, broken.2, encoded.2, marked.2, watched.2, tagged.2⟩⟩
  · intro ⟨describes, completes⟩
    rw [checkKeys_eq_ok_iff.mpr describes.named,
      continuation?_eq_ok_iff.mpr ⟨describes.continuation, completes.continuation⟩,
      openTail?_eq_ok_iff.mpr ⟨describes.openTail, completes.openTail⟩,
      newline?_eq_ok_iff.mpr ⟨describes.newline, completes.newline⟩,
      encoding?_eq_ok_iff.mpr ⟨describes.encoding, completes.encoding⟩,
      markers?_eq_ok_iff.mpr ⟨describes.markers, completes.markers⟩,
      sentinels?_eq_ok_iff.mpr ⟨describes.sentinels, completes.sentinels⟩,
      tags?_eq_ok_iff.mpr ⟨describes.tags, completes.tags⟩]
    rfl

end Config

end Docblock

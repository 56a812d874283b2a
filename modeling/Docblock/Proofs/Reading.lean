import Docblock.Proofs.Description

namespace Docblock

open Entries

namespace Entries

variable {entries : Entries} {name : String}

theorem exists_spelling {α : Type} {spelling : α → Text} (fallback : α)
    (given : entries.Given name fun found => ∃ chosen, found = .text (spelling chosen)) :
    ∃ chosen, spelling chosen = (entries.supplied? name).getD (spelling fallback) := by
  unfold supplied?
  cases held : Value.lookup? name.toList entries with
  | none => exact ⟨fallback, rfl⟩
  | some found =>
      obtain ⟨chosen, rfl⟩ := given found held
      exact ⟨chosen, rfl⟩

theorem exists_newline (given : entries.Given "newline" Value.IsNewline) :
    ∃ newline : Option Newline, newline.map Newline.text = entries.supplied? "newline" := by
  unfold supplied?
  cases held : Value.lookup? "newline".toList entries with
  | none => exact ⟨none, rfl⟩
  | some found =>
      obtain rfl | ⟨newline, rfl⟩ := given found held
      · exact ⟨none, rfl⟩
      · exact ⟨some newline, rfl⟩

theorem texts_members {names : List String} (given : entries.Given name (Value.IsGroup names)) :
    (entries.members name).Texts names := by
  unfold members
  cases held : Value.lookup? name.toList entries with
  | none => exact texts_nil names
  | some found =>
      obtain rfl | ⟨inner, mapping, texts⟩ := given found held
      · exact texts_nil names
      · simpa [mapping] using texts

theorem completed_filled {defaults : List (String × Text)}
    (texts : entries.Texts (defaults.map Prod.fst)) (filled : ∀ field ∈ defaults, field.2 ≠ []) :
    ∀ field ∈ entries.completed defaults, field.2 ≠ [] := by
  intro field member
  obtain ⟨default, inside, rfl⟩ := List.mem_map.mp member
  have given := texts.2 default.1 (List.mem_map_of_mem inside)
  unfold supplied?
  cases held : Value.lookup? default.1.toList entries with
  | none => exact filled default inside
  | some found =>
      obtain ⟨text, read, nonempty⟩ := given found held
      simpa [read] using nonempty

theorem texts_ofFields {names : List String} {fields : List (String × Text)}
    (listed : fields.map Prod.fst = names) (filled : ∀ field ∈ fields, field.2 ≠ []) :
    (ofFields fields).Texts names := by
  constructor
  · intro entry member
    obtain ⟨field, inside, rfl⟩ := List.mem_map.mp member
    exact ⟨field.1, listed ▸ List.mem_map_of_mem inside, rfl⟩
  · intro name _ found held
    obtain ⟨field, inside, same⟩ := List.mem_map.mp (Value.mem_of_lookup? held)
    rw [← (Prod.mk.inj same).2]
    exact ⟨field.2, rfl, filled field inside⟩

theorem supplied?_ofFields {fields : List (String × Text)} {field : String × Text}
    (distinct : (fields.map Prod.fst).Nodup) (member : field ∈ fields) :
    (ofFields fields).supplied? field.1 = some field.2 := by
  induction fields with
  | nil => cases member
  | cons first fields induction =>
      rw [List.map_cons, List.nodup_cons] at distinct
      obtain rfl | inside := List.mem_cons.mp member
      · simp [ofFields, supplied?, Value.lookup?, Value.text?]
      · have other : first.1 ≠ field.1 := by
          intro same
          rw [same] at distinct
          exact distinct.1 (List.mem_map_of_mem inside)
        rw [← induction distinct.2 inside]
        simp [ofFields, supplied?, Value.lookup?, String.toList_inj, other]

theorem completed_eq {defaults fields : List (String × Text)}
    (listed : defaults.map Prod.fst = fields.map Prod.fst)
    (supplied : ∀ field ∈ fields, entries.supplied? field.1 = some field.2) :
    entries.completed defaults = fields := by
  induction fields generalizing defaults with
  | nil =>
      rw [List.map_eq_nil_iff.mp listed]
      rfl
  | cons field fields induction =>
      obtain ⟨default, rest, rfl, same, others⟩ := List.map_eq_cons_iff.mp listed
      rw [List.forall_mem_cons] at supplied
      rw [completed, List.map_cons, same, supplied.1]
      exact congrArg (field :: ·) (induction others supplied.2)

theorem completed_ofFields (fields defaults : List (String × Text))
    (listed : defaults.map Prod.fst = fields.map Prod.fst)
    (distinct : (defaults.map Prod.fst).Nodup) : (ofFields fields).completed defaults = fields := by
  apply completed_eq listed
  intro field member
  exact supplied?_ofFields (listed ▸ distinct) member

end Entries

theorem Markers.fields_filled : ∀ field ∈ ({} : Markers).fields, field.2 ≠ [] := by
  decide

theorem Sentinels.fields_filled : ∀ field ∈ ({} : Sentinels).fields, field.2 ≠ [] := by
  decide

theorem Tags.fields_filled : ∀ field ∈ ({} : Tags).fields, field.2 ≠ [] := by
  decide

namespace Config

variable {entries : Entries} {config : Config}

theorem exists_completes (describes : entries.Describe) :
    ∃ config : Config, config.Completes entries := by
  obtain ⟨continuation, continued⟩ := exists_spelling Continuation.prepend describes.continuation
  obtain ⟨openTail, ended⟩ := exists_spelling OpenTail.error describes.openTail
  obtain ⟨newline, broken⟩ := exists_newline describes.newline
  exact ⟨⟨⟨_, _, _, _⟩, ⟨_, _, _, _, _, _⟩, ⟨_, _, _, _⟩, continuation, openTail, newline, _⟩,
    ⟨continued, ended, broken, rfl, rfl, rfl, rfl⟩⟩

theorem Completes.filled (completes : config.Completes entries) (describes : entries.Describe) :
    ∀ field ∈ config.fields, field.2 ≠ [] := by
  have markers := completed_filled (texts_members describes.markers) Markers.fields_filled
  have sentinels := completed_filled (texts_members describes.sentinels) Sentinels.fields_filled
  have tags := completed_filled (texts_members describes.tags) Tags.fields_filled
  intro field member
  simp only [fields, completes.markers, completes.sentinels, completes.tags, List.mem_append,
    or_assoc] at member
  obtain member | member | member := member
  · exact markers field member
  · exact sentinels field member
  · exact tags field member

theorem describe_entries (filled : ∀ field ∈ config.fields, field.2 ≠ []) :
    config.entries.Describe := by
  simp only [fields, List.forall_mem_append] at filled
  obtain ⟨⟨markers, sentinels⟩, tags⟩ := filled
  constructor
  case named => simp [Named, Config.entries, keys]
  case continuation => exact (given_iff rfl).mpr ⟨config.continuation, rfl⟩
  case openTail => exact (given_iff rfl).mpr ⟨config.openTail, rfl⟩
  case newline =>
    intro found held
    cases held
    cases config.newline with
    | none => exact .inl rfl
    | some newline => exact .inr ⟨newline, rfl⟩
  case encoding =>
    intro found held
    cases held
    cases config.encoding with
    | none => exact .inl rfl
    | some encoding => exact .inr ⟨encoding, rfl⟩
  case markers => exact (given_iff rfl).mpr (.inr ⟨_, rfl, texts_ofFields rfl markers⟩)
  case sentinels => exact (given_iff rfl).mpr (.inr ⟨_, rfl, texts_ofFields rfl sentinels⟩)
  case tags => exact (given_iff rfl).mpr (.inr ⟨_, rfl, texts_ofFields rfl tags⟩)

theorem completes_entries (config : Config) : config.Completes config.entries where
  continuation := rfl
  openTail := rfl
  newline := by
    change _ = Value.text? _
    cases config.newline <;> rfl
  encoding := by
    change _ = Value.text? _
    cases config.encoding <;> rfl
  markers := by
    symm
    exact completed_ofFields config.markers.fields ({} : Markers).fields rfl (by decide)
  sentinels := by
    symm
    exact completed_ofFields config.sentinels.fields ({} : Sentinels).fields rfl (by decide)
  tags := by
    symm
    exact completed_ofFields config.tags.fields ({} : Tags).fields rfl (by decide)

end Config

namespace Entries

variable {entries : Entries}

theorem passes_checkKeys_iff {scope : String} {names : List String} :
    Passes (checkKeys scope names entries) ↔ entries.Named names := by
  constructor
  · intro ⟨(), passed⟩
    exact checkKeys_eq_ok_iff.mp passed
  · intro named
    exact ⟨(), checkKeys_eq_ok_iff.mpr named⟩

theorem passes_continuation?_iff {room : Nat} :
    Passes (continuation? room entries) ↔
      entries.Given "param_continuation" Value.IsContinuation := by
  unfold Passes
  simp only [continuation?_eq_ok_iff, exists_and_left]
  exact and_iff_left_of_imp (exists_spelling _)

theorem passes_openTail?_iff {room : Nat} :
    Passes (openTail? room entries) ↔ entries.Given "on_unterminated" Value.IsOpenTail := by
  unfold Passes
  simp only [openTail?_eq_ok_iff, exists_and_left]
  exact and_iff_left_of_imp (exists_spelling _)

theorem passes_newline?_iff {room : Nat} :
    Passes (newline? room entries) ↔ entries.Given "newline" Value.IsNewline := by
  unfold Passes
  simp only [newline?_eq_ok_iff, exists_and_left]
  exact and_iff_left_of_imp exists_newline

end Entries

namespace Value

variable {entries : Entries}

theorem IsJson.not_unnamed (json : IsJson (.map entries)) : ¬entries.Unnamed := by
  cases json with
  | map keys all =>
      intro ⟨entry, member, unnamed⟩
      obtain ⟨name, named⟩ := keys entry member
      rw [unnamed] at named
      cases named

theorem IsJson.lookup? {name : Text} {found : Value} (json : IsJson (.map entries))
    (held : Value.lookup? name entries = some found) : found.IsJson := by
  cases json with
  | map keys all => exact all _ (mem_of_lookup? held)

theorem IsJson.not_unnamedIn {name : String} {names : List String} {cause : Defect}
    (json : IsJson (.map entries)) : ¬entries.UnnamedIn name names cause := by
  intro ⟨inner, grouped, unnamed, _⟩
  unfold group at grouped
  split at grouped
  · cases grouped
    simp [Unnamed] at unnamed
  · cases grouped
    simp [Unnamed] at unnamed
  · rename_i found _ held
    have inside := json.lookup? held
    cases inside with
    | map keys all =>
        cases grouped
        exact (IsJson.map keys all).not_unnamed unnamed
    | _ => cases grouped

end Value

theorem Config.unforeseen_iff {room : Nat} {entries : Entries} {cause : Defect}
    (json : Value.IsJson (.map entries)) :
    Config.Unforeseen room entries cause ↔ entries.Unreported room cause := by
  constructor
  · intro unforeseen
    -- Every key is a text here, so what is left are the options that have to be shown.
    cases unforeseen with
    | keys unnamed => exact absurd unnamed json.not_unnamed
    | continuation keys refused unshown =>
        rw [passes_continuation?_iff] at refused
        exact .continuation (passes_checkKeys_iff.mp keys) refused unshown
    | openTail keys continuation refused unshown =>
        rw [passes_openTail?_iff] at refused
        exact .openTail (passes_checkKeys_iff.mp keys) (passes_continuation?_iff.mp continuation)
          refused unshown
    | newline keys continuation openTail refused unshown =>
        rw [passes_newline?_iff] at refused
        exact .newline (passes_checkKeys_iff.mp keys) (passes_continuation?_iff.mp continuation)
          (passes_openTail?_iff.mp openTail) refused unshown
    | markers options unnamed => exact absurd unnamed json.not_unnamedIn
    | sentinels options markers unnamed => exact absurd unnamed json.not_unnamedIn
    | tags options markers sentinels unnamed => exact absurd unnamed json.not_unnamedIn
  · intro unreported
    cases unreported with
    | continuation named refused unshown =>
        exact .continuation (passes_checkKeys_iff.mpr named)
          (mt passes_continuation?_iff.mp refused) unshown
    | openTail named continuation refused unshown =>
        exact .openTail (passes_checkKeys_iff.mpr named)
          (passes_continuation?_iff.mpr continuation) (mt passes_openTail?_iff.mp refused) unshown
    | newline named continuation openTail refused unshown =>
        exact .newline (passes_checkKeys_iff.mpr named)
          (passes_continuation?_iff.mpr continuation) (passes_openTail?_iff.mpr openTail)
          (mt passes_newline?_iff.mp refused) unshown

theorem Value.entries_of_isVoid {value : Value} (void : value.isVoid = true) :
    value.entries = [] := by
  cases value with
  | map entries => exact List.isEmpty_iff.mp void
  | ordered entries => exact List.isEmpty_iff.mp void
  | _ => rfl

theorem Entries.describe_nil : Describe [] := by
  constructor <;> simp [Named, Given]

theorem Entries.not_unreported_nil {room : Nat} {cause : Defect} : ¬Unreported room [] cause := by
  intro unreported
  cases unreported <;> simp_all [Unshown]

theorem Value.Describes.entries {value : Value} (describes : value.Describes) :
    value.entries.Describe := by
  obtain void | ⟨entries, mapping, describes⟩ := describes
  · rw [entries_of_isVoid void]
    exact describe_nil
  · simpa [Value.entries, mapping] using describes

namespace Value

def showFaults : List Defect :=
  [.numberTooLong, .tooDeep]

theorem cause_of_deeper {below : Nat → Option Defect} {room : Nat} {cause : Defect}
    (inner : ∀ room, below room = some cause → cause ∈ showFaults)
    (fault : deeper below room = some cause) : cause ∈ showFaults := by
  cases room with
  | zero => simp [showFaults, ← Option.some.inj fault]
  | succ room => exact inner room fault

theorem cause_of_or {first second : Option Defect} {cause : Defect}
    (here : first = some cause → cause ∈ showFaults)
    (there : second = some cause → cause ∈ showFaults)
    (fault : first.or second = some cause) : cause ∈ showFaults := by
  rcases Option.or_eq_some_iff.mp fault with fault | ⟨-, fault⟩
  · exact here fault
  · exact there fault

theorem cause_of_flat {room : Nat} {cause : Defect} (fault : deeper (fun _ => none) room = some cause) :
    cause ∈ showFaults := by
  apply cause_of_deeper _ fault
  intro room impossible
  cases impossible

mutual

theorem cause_of_showFault? {room : Nat} {cause : Defect} (value : Value)
    (fault : value.showFault? room = some cause) :
    cause ∈ showFaults := by
  cases value with
  | int value =>
      apply cause_of_deeper _ fault
      intro room long
      split at long
      · simp [showFaults, ← Option.some.inj long]
      · cases long
  | moment value =>
      apply cause_of_deeper _ fault
      intro room fault
      split at fault
      · exact cause_of_deeper (fun _ => cause_of_flat) fault
      · cases fault
  | list items => exact cause_of_deeper (fun _ => cause_of_itemsFault? items) fault
  | tuple items => exact cause_of_deeper (fun _ => cause_of_itemsFault? items) fault
  | set items =>
      apply cause_of_deeper _ fault
      intro room fault
      split at fault
      · cases fault
      · exact cause_of_deeper (fun _ => cause_of_itemsFault? items) fault
  | map entries => exact cause_of_deeper (fun _ => cause_of_entriesFault? entries) fault
  | ordered entries =>
      apply cause_of_deeper _ fault
      intro room fault
      split at fault
      · cases fault
      · exact cause_of_deeper (fun _ => cause_of_pairsFault? entries) fault
  | _ => exact cause_of_flat fault

theorem cause_of_itemsFault? {room : Nat} {cause : Defect} (items : List Value)
    (fault : itemsFault? items room = some cause) :
    cause ∈ showFaults := by
  cases items with
  | nil => cases fault
  | cons item items =>
      exact cause_of_or (cause_of_showFault? item) (cause_of_itemsFault? items) fault

theorem cause_of_entriesFault? {room : Nat} {cause : Defect} (entries : List (Value × Value))
    (fault : entriesFault? entries room = some cause) :
    cause ∈ showFaults := by
  cases entries with
  | nil => cases fault
  | cons entry entries =>
      obtain ⟨key, value⟩ := entry
      apply cause_of_or _ (cause_of_entriesFault? entries) fault
      exact cause_of_or (cause_of_showFault? key) (cause_of_showFault? value)

theorem cause_of_pairsFault? {room : Nat} {cause : Defect} (entries : List (Value × Value))
    (fault : pairsFault? entries room = some cause) :
    cause ∈ showFaults := by
  cases entries with
  | nil => cases fault
  | cons entry entries =>
      obtain ⟨key, value⟩ := entry
      apply cause_of_or _ (cause_of_pairsFault? entries) fault
      apply cause_of_deeper
      intro room
      exact cause_of_or (cause_of_showFault? key) (cause_of_showFault? value)

end

end Value

namespace Entries

variable {room : Nat} {name : String} {entries : Entries} {cause : Defect}

theorem Unshown.mem_showFaults (unshown : entries.Unshown room name cause) : cause ∈ Value.showFaults := by
  obtain ⟨found, -, fault⟩ := unshown
  exact Value.cause_of_showFault? found fault

theorem Unreported.mem_showFaults (unreported : entries.Unreported room cause) :
    cause ∈ Value.showFaults := by
  cases unreported with
  | continuation named refused unshown => exact Unshown.mem_showFaults unshown
  | openTail named continuation refused unshown => exact Unshown.mem_showFaults unshown
  | newline named continuation openTail refused unshown => exact Unshown.mem_showFaults unshown

theorem unreported_newline {found : Value} (invalid : ¬found.IsNewline)
    (unshown : found.showFault? room = some cause) :
    Unreported room [(.text "newline".toList, found)] cause := by
  apply Unreported.newline
  case named => simp [Named, Config.keys]
  case continuation => exact given_of_absent rfl
  case openTail => exact given_of_absent rfl
  case refused =>
    intro given
    exact invalid (given found rfl)
  case unshown => exact ⟨found, rfl, unshown⟩

end Entries

theorem Value.not_describes_newline {found : Value} (invalid : ¬found.IsNewline) :
    ¬Value.Describes (.map [(.text "newline".toList, found)]) := by
  rintro (void | ⟨entries, mapping, describes⟩)
  · cases void
  · cases mapping
    exact invalid (describes.newline found rfl)

theorem Value.isJson_newline {found : Value} (json : found.IsJson) :
    IsJson (.map [(.text "newline".toList, found)]) := by
  apply IsJson.map
  · simp [text?]
  · simpa using json

namespace Config

variable {room : Nat} {value : Value} {config : Config}

theorem ofValue_eq_ok_iff :
    ofValue room value = .ok config ↔ value.Describes ∧ config.Completes value.entries := by
  unfold ofValue Value.Describes
  split
  · rename_i void
    -- A void value is read as a mapping without entries is.
    have read : ofEntries room [] = .ok {} := rfl
    rw [← read, ofEntries_eq_ok_iff, Value.entries_of_isVoid void]
    simp [void, describe_nil]
  · rename_i full
    cases mapping : ofMapping? value with
    | none => simp [full]
    | some entries => simp [full, Value.entries, mapping, ofEntries_eq_ok_iff]

theorem passes_ofValue_iff : Passes (ofValue room value) ↔ value.Describes := by
  unfold Passes
  simp only [ofValue_eq_ok_iff, exists_and_left]
  exact and_iff_left_of_imp fun describes => exists_completes describes.entries

theorem ofValue_entries (accepted : ofValue room value = .ok config) :
    ofValue room (.map config.entries) = .ok config := by
  have read := ofValue_eq_ok_iff.mp accepted
  have filled := read.2.filled read.1.entries
  exact ofValue_eq_ok_iff.mpr ⟨.inr ⟨_, rfl, describe_entries filled⟩, completes_entries config⟩

theorem ofValue_refuses_json (json : value.IsJson) :
    Refuses (ofValue room value) (value.entries.Unreported room) := by
  apply (ofValue_refuses room value).congr
  intro cause
  cases json with
  | map keys all => simp [ofMapping?, Value.entries, unforeseen_iff (.map keys all)]
  | _ => simp [ofMapping?, Value.entries, not_unreported_nil]

theorem exists_error_of_json (json : value.IsJson) (undescribed : ¬value.Describes)
    (reported : ∀ cause, ¬value.entries.Unreported room cause) :
    ∃ error, ofValue room value = .error (.problem (.config error)) := by
  have refuses : Refuses (ofValue room value) (value.entries.Unreported room) :=
    ofValue_refuses_json json
  cases outcome : ofValue room value with
  | ok config => exact absurd (passes_ofValue_iff.mp ⟨config, outcome⟩) undescribed
  | error failure =>
      cases failure with
      | problem problem =>
          obtain ⟨error, rfl⟩ := refuses.problem problem outcome
          exact ⟨error, rfl⟩
      | defect cause => exact absurd ((refuses.defect cause).mp outcome) (reported cause)

/-- Just the values that describe a configuration give one. It has what they supply, and all else
by default, so that none of its texts is empty, and it is read back from the list of its options.
A value of JSON that describes none is reported as such, unless the report would have to show a
number that is too long or a value that nests too deep. -/
theorem ofValue_accepts_described (room : Nat) (value : Value) :
    (Passes (ofValue room value) ↔ value.Describes) ∧
      (∀ config, ofValue room value = .ok config → config.Completes value.entries ∧
        (∀ field ∈ config.fields, field.2 ≠ []) ∧
        ofValue room (.map config.entries) = .ok config) ∧
      (value.IsJson → ¬value.Describes →
        ((∀ cause, ¬value.entries.Unreported room cause) →
          ∃ error, ofValue room value = .error (.problem (.config error))) ∧
        ∀ cause, value.entries.Unreported room cause →
          cause ∈ Value.showFaults ∧ ofValue room value = .error (.defect cause)) := by
  refine ⟨passes_ofValue_iff, ?_, ?_⟩
  · intro config accepted
    have read := ofValue_eq_ok_iff.mp accepted
    exact ⟨read.2, read.2.filled read.1.entries, ofValue_entries accepted⟩
  · intro json undescribed
    refine ⟨exists_error_of_json json undescribed, ?_⟩
    intro cause unreported
    exact ⟨unreported.mem_showFaults, ((ofValue_refuses_json json).defect cause).mpr unreported⟩

theorem ofValue_accepts_described_marker :
    (∃ config : Config, config.markers.closing = "]".toList ∧
      ofValue 1 (.map [(.text "markers".toList, .map [(.text "close".toList, .text "]".toList)])]) =
        .ok config ∧ ofValue 1 (.map config.entries) = .ok config) ∧
      (∃ error, ofValue 1 (.int 1) = .error (.problem (.config error))) ∧
      ofValue 1 (.map [(.text "newline".toList, .list [.list []])]) = .error (.defect .tooDeep) := by
  have read : ofValue 1 (.map [(.text "markers".toList,
      .map [(.text "close".toList, .text "]".toList)])]) =
        .ok { markers := { closing := "]".toList } } := rfl
  have undescribed : ¬(Value.int 1).Describes := by
    simp [Value.Describes, Value.isVoid, ofMapping?]
  have invalid : ¬(Value.list [.list []]).IsNewline := by
    simp [Value.IsNewline]
  have json : (Value.list [.list []]).IsJson := by
    apply Value.IsJson.list
    simp only [List.forall_mem_singleton]
    exact .list (List.forall_mem_nil _)
  refine ⟨?_, ?_, ?_⟩
  · exact ⟨_, rfl, read, ((ofValue_accepts_described 1 _).2.1 _ read).2.2⟩
  · exact ((ofValue_accepts_described 1 (.int 1)).2.2 (.int 1) undescribed).1
      fun _ => not_unreported_nil
  · exact (((ofValue_accepts_described 1 _).2.2 (Value.isJson_newline json)
      (Value.not_describes_newline invalid)).2 .tooDeep (unreported_newline invalid rfl)).2

theorem ofValue_long_newline {number : Int} (long : Value.isLong number = true) :
    Value.IsJson (.map [(.text "newline".toList, .int number)]) ∧
      ¬Value.Describes (.map [(.text "newline".toList, .int number)]) ∧
      ofValue (room + 1) (.map [(.text "newline".toList, .int number)]) =
        .error (.defect .numberTooLong) := by
  have invalid : ¬(Value.int number).IsNewline := by
    simp [Value.IsNewline]
  have fault : (Value.int number).showFault? (room + 1) = some .numberTooLong := by
    simp [Value.showFault?, Value.deeper, long]
  have json := Value.isJson_newline (.int number)
  exact ⟨json, Value.not_describes_newline invalid,
    ((ofValue_refuses_json json).defect .numberTooLong).mpr (unreported_newline invalid fault)⟩

/-- A number in the place of a line break is not reported if it is too long. -/
theorem ofValue_long_newline_unreported :
    ∃ value : Value, value = .map [(.text "newline".toList, .int (Int.pow 16 4300))] ∧
      value.IsJson ∧ ¬value.Describes ∧
      ofValue Value.usualRoom value = .error (.defect .numberTooLong) := by
  have long : ∀ digits, Numeral.digitLimit = digits → Value.isLong (Int.pow 16 digits) = true := by
    intro digits limit
    have size : (Int.pow 16 digits).natAbs = 16 ^ digits := Int.natAbs_pow 16 digits
    rw [Value.isLong, limit, size, decide_eq_true_iff]
    exact Nat.pow_le_pow_left (by decide) digits
  exact ⟨_, rfl, ofValue_long_newline (long 4300 rfl)⟩

end Config

end Docblock

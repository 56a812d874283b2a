import Docblock.Config.Load
import Docblock.Proofs.Acceptance

namespace Docblock

def Passes {α : Type} (check : Except Failure α) : Prop :=
  ∃ value, check = .ok value

/-- A check that fails with problems of the configuration, and with the given defects. -/
structure Refuses {α : Type} (check : Except Failure α) (unforeseen : Defect → Prop) : Prop where
  problem : ∀ problem, check = .error (.problem problem) → ∃ error, problem = .config error
  defect : ∀ cause, check = .error (.defect cause) ↔ unforeseen cause

namespace Refuses

variable {α β : Type} {first : Except Failure α} {next : α → Except Failure β}
  {unforeseen : Defect → Prop}

theorem ok (value : α) : Refuses (.ok value) fun _ => False where
  problem := by
    intro problem failed
    cases failed
  defect := by
    intro cause
    constructor
    · intro failed
      cases failed
    · exact False.elim

theorem error (error : ConfigError) :
    Refuses (.error (.problem (.config error)) : Except Failure α) fun _ => False where
  problem := by
    intro problem failed
    cases failed
    exact ⟨error, rfl⟩
  defect := by
    intro cause
    constructor
    · intro failed
      cases failed
    · exact False.elim

theorem congr {unforeseen other : Defect → Prop} (refuses : Refuses first unforeseen)
    (same : ∀ cause, unforeseen cause ↔ other cause) : Refuses first other where
  problem := refuses.problem
  defect cause := (refuses.defect cause).trans (same cause)

theorem of_impossible {unforeseen : Defect → Prop} (refuses : Refuses first fun _ => False)
    (impossible : ∀ cause, ¬unforeseen cause) : Refuses first unforeseen := by
  apply refuses.congr
  intro cause
  rw [eq_false (impossible cause)]

theorem bind {later : α → Defect → Prop} (here : Refuses first unforeseen)
    (rest : ∀ value, Refuses (next value) (later value)) :
    Refuses (first >>= next) fun cause =>
      unforeseen cause ∨ ∃ value, first = .ok value ∧ later value cause := by
  cases passed : first with
  | error failure =>
      constructor
      · intro problem failed
        apply here.problem problem
        rw [passed, Except.error.inj failed]
      · intro cause
        constructor
        · intro failed
          left
          apply (here.defect cause).mp
          rw [passed, Except.error.inj failed]
        · rintro (unforeseen | ⟨value, impossible, -⟩)
          · have failed := (here.defect cause).mpr unforeseen
            rw [passed] at failed
            exact congrArg Except.error (Except.error.inj failed)
          · cases impossible
  | ok value =>
      constructor
      · exact (rest value).problem
      · intro cause
        constructor
        · intro failed
          exact .inr ⟨value, rfl, ((rest value).defect cause).mp failed⟩
        · rintro (unforeseen | ⟨other, same, unforeseen⟩)
          · have failed := (here.defect cause).mpr unforeseen
            rw [passed] at failed
            cases failed
          · cases same
            exact ((rest value).defect cause).mpr unforeseen

theorem bind_passes {later : Defect → Prop} (here : Refuses first unforeseen)
    (rest : ∀ value, Refuses (next value) later) :
    Refuses (first >>= next) fun cause => unforeseen cause ∨ Passes first ∧ later cause := by
  apply (here.bind rest).congr
  intro cause
  rw [exists_and_right]
  rfl

theorem bind_foreseen (here : Refuses first unforeseen)
    (rest : ∀ value, Refuses (next value) fun _ => False) :
    Refuses (first >>= next) unforeseen := by
  apply (here.bind_passes rest).congr
  intro cause
  rw [and_false, or_false]

theorem foreseen_bind {later : α → Defect → Prop} (here : Refuses first fun _ => False)
    (rest : ∀ value, Refuses (next value) (later value)) :
    Refuses (first >>= next) fun cause => ∃ value, first = .ok value ∧ later value cause := by
  apply (here.bind rest).congr
  intro cause
  rw [false_or]

end Refuses

namespace Entries

def Unnamed (entries : Entries) : Prop :=
  ∃ entry ∈ entries, entry.1.text? = none

def Unshown (room : Nat) (name : String) (entries : Entries) (cause : Defect) : Prop :=
  ∃ found, Value.lookup? name.toList entries = some found ∧ found.showFault? room = some cause

def unlisted (names : List String) (entries : Entries) : Defect :=
  unlistable (unknown (names.map String.toList) entries)

theorem texts?_eq_none_iff (keys : List Value) :
    texts? keys = none ↔ ∃ key ∈ keys, key.text? = none := by
  induction keys with
  | nil => simp [texts?]
  | cons key keys induction =>
      simp only [List.mem_cons, or_and_right, exists_or, exists_eq_left, ← induction]
      cases text : key.text? with
      | none => simp [texts?, text]
      | some found => cases rest : texts? keys <;> simp [texts?, text, rest]

theorem isKnown_of_text?_eq_none {names : List Text} {key : Value} (unnamed : key.text? = none) :
    isKnown names key = false := by
  cases key with
  | text value => cases unnamed
  | _ => rfl

theorem texts?_unknown_eq_none_iff (names : List Text) (entries : Entries) :
    texts? (unknown names entries) = none ↔ entries.Unnamed := by
  rw [texts?_eq_none_iff]
  constructor
  · rintro ⟨key, member, unnamed⟩
    obtain ⟨entry, inside, rfl⟩ := List.mem_map.mp (List.mem_filter.mp member).1
    exact ⟨entry, inside, unnamed⟩
  · rintro ⟨entry, inside, unnamed⟩
    refine ⟨entry.1, List.mem_filter.mpr ⟨List.mem_map_of_mem inside, ?_⟩, unnamed⟩
    rw [isKnown_of_text?_eq_none unnamed]
    rfl

theorem checkKeys_refuses (scope : String) (names : List String) (entries : Entries) :
    Refuses (checkKeys scope names entries) fun cause =>
      entries.Unnamed ∧ cause = unlisted names entries := by
  have unnamed := texts?_unknown_eq_none_iff (names.map String.toList) entries
  unfold checkKeys unlisted
  split
  · rename_i none
    rw [none] at unnamed
    apply (Refuses.ok ()).of_impossible
    simp [← unnamed, texts?]
  · split
    · rename_i texts listed
      apply (Refuses.error _).of_impossible
      simp [← unnamed, listed]
    · rename_i unlisted
      constructor
      · intro problem failed
        cases failed
      · intro cause
        simp [← unnamed, unlisted, eq_comm]

theorem text_refuses (scope name : String) (fallback : Text) (entries : Entries) :
    Refuses (text scope name fallback entries) fun _ => False := by
  simp only [text]
  split
  · exact .ok fallback
  · split
    · exact .error _
    · exact .ok _
    · exact .error _

theorem group_refuses (name : String) (entries : Entries) :
    Refuses (group name entries) fun _ => False := by
  unfold group
  split
  · exact .ok []
  · exact .ok []
  · split
    · exact .ok _
    · exact .error _

theorem encoding?_refuses (entries : Entries) : Refuses (encoding? entries) fun _ => False := by
  unfold encoding?
  split
  · exact .ok none
  · exact .ok none
  · split
    · exact .ok _
    · exact .error _

theorem refuse_refuses {α : Type} (room : Nat) (error : Value → ConfigError) (found : Value) :
    Refuses (refuse room error found : Except Failure α) fun cause =>
      found.showFault? room = some cause := by
  unfold refuse
  cases shown : found.showFault? room with
  | none =>
      apply (Refuses.error _).of_impossible
      simp
  | some fault =>
      constructor
      · intro problem failed
        cases failed
      · intro cause
        simp

theorem unshown_iff {room : Nat} {name : String} {entries : Entries} {found : Value}
    {cause : Defect} (held : Value.lookup? name.toList entries = some found) :
    entries.Unshown room name cause ↔ found.showFault? room = some cause := by
  simp [Unshown, held]

theorem not_passes_refuse {α : Type} {room : Nat} {error : Value → ConfigError} {found : Value} :
    ¬Passes (refuse room error found : Except Failure α) := by
  intro ⟨value, passed⟩
  unfold refuse at passed
  split at passed <;> cases passed

theorem shown_refuses {α : Type} {room : Nat} {name : String} {entries : Entries}
    {error : Value → ConfigError} {check : Except Failure α}
    (either : Passes check ∨ ∃ found, Value.lookup? name.toList entries = some found ∧
      check = refuse room error found) :
    Refuses check fun cause => ¬Passes check ∧ entries.Unshown room name cause := by
  rcases either with ⟨value, passed⟩ | ⟨found, held, rfl⟩
  · rw [passed]
    apply (Refuses.ok value).of_impossible
    rintro cause ⟨unpassed, -⟩
    exact unpassed ⟨value, rfl⟩
  · apply (refuse_refuses room error found).congr
    intro cause
    rw [unshown_iff held, and_iff_right not_passes_refuse]

theorem choice_refuses {α : Type} (room : Nat) (choose? : Text → Option α)
    (error : Value → ConfigError) (name : String) (fallback : α) (entries : Entries) :
    Refuses (choice room choose? error name fallback entries) fun cause =>
      ¬Passes (choice room choose? error name fallback entries) ∧
        entries.Unshown room name cause := by
  apply shown_refuses
  case error => exact error
  case either =>
    unfold choice
    split
    · exact .inl ⟨fallback, rfl⟩
    · rename_i text held
      split
      · exact .inl ⟨_, rfl⟩
      · exact .inr ⟨_, held, rfl⟩
    · rename_i found _ held
      exact .inr ⟨found, held, rfl⟩

theorem newline?_refuses (room : Nat) (entries : Entries) :
    Refuses (newline? room entries) fun cause =>
      ¬Passes (newline? room entries) ∧ entries.Unshown room "newline" cause := by
  apply shown_refuses
  case error => exact .newline
  case either =>
    unfold newline?
    split
    · exact .inl ⟨none, rfl⟩
    · exact .inl ⟨none, rfl⟩
    · rename_i text held
      split
      · exact .inl ⟨_, rfl⟩
      · exact .inr ⟨_, held, rfl⟩
    · rename_i found _ _ held
      exact .inr ⟨found, held, rfl⟩

end Entries

open Entries

theorem Markers.ofEntries_refuses (entries : Entries) :
    Refuses (Markers.ofEntries entries) fun cause =>
      entries.Unnamed ∧ cause = unlisted Markers.keys entries := by
  apply (checkKeys_refuses "markers" Markers.keys entries).bind_foreseen
  intro _
  apply (text_refuses "markers" _ _ entries).bind_foreseen
  intro opening
  apply (text_refuses "markers" _ _ entries).bind_foreseen
  intro closing
  apply (text_refuses "markers" _ _ entries).bind_foreseen
  intro lineComment
  apply (text_refuses "markers" _ _ entries).bind_foreseen
  intro doc
  exact .ok _

theorem Sentinels.ofEntries_refuses (entries : Entries) :
    Refuses (Sentinels.ofEntries entries) fun cause =>
      entries.Unnamed ∧ cause = unlisted Sentinels.keys entries := by
  apply (checkKeys_refuses "sentinels" Sentinels.keys entries).bind_foreseen
  intro _
  apply (text_refuses "sentinels" _ _ entries).bind_foreseen
  intro summary
  apply (text_refuses "sentinels" _ _ entries).bind_foreseen
  intro parameters
  apply (text_refuses "sentinels" _ _ entries).bind_foreseen
  intro returns
  apply (text_refuses "sentinels" _ _ entries).bind_foreseen
  intro description
  apply (text_refuses "sentinels" _ _ entries).bind_foreseen
  intro separator
  apply (text_refuses "sentinels" _ _ entries).bind_foreseen
  intro noValue
  exact .ok _

theorem Tags.ofEntries_refuses (entries : Entries) :
    Refuses (Tags.ofEntries entries) fun cause =>
      entries.Unnamed ∧ cause = unlisted Tags.keys entries := by
  apply (checkKeys_refuses "tags" Tags.keys entries).bind_foreseen
  intro _
  apply (text_refuses "tags" _ _ entries).bind_foreseen
  intro summary
  apply (text_refuses "tags" _ _ entries).bind_foreseen
  intro param
  apply (text_refuses "tags" _ _ entries).bind_foreseen
  intro returns
  apply (text_refuses "tags" _ _ entries).bind_foreseen
  intro paramAttr
  exact .ok _

namespace Entries

variable (room : Nat) (entries : Entries)

def continuation? : Except Failure Continuation :=
  choice room Continuation.ofText? .continuation "param_continuation" .prepend entries

def openTail? : Except Failure OpenTail :=
  choice room OpenTail.ofText? .openTail "on_unterminated" .error entries

def markers? : Except Failure Markers :=
  group "markers" entries >>= Markers.ofEntries

def sentinels? : Except Failure Sentinels :=
  group "sentinels" entries >>= Sentinels.ofEntries

def tags? : Except Failure Tags :=
  group "tags" entries >>= Tags.ofEntries

def UnnamedIn (name : String) (names : List String) (cause : Defect) : Prop :=
  ∃ inner, group name entries = .ok inner ∧ inner.Unnamed ∧ cause = unlisted names inner

structure Plain : Prop where
  keys : Passes (checkKeys "config" Config.keys entries)
  continuation : Passes (continuation? room entries)
  openTail : Passes (openTail? room entries)
  newline : Passes (newline? room entries)
  encoding : Passes entries.encoding?

end Entries

theorem Config.ofEntries_eq (room : Nat) (entries : Entries) :
    Config.ofEntries room entries = (do
      checkKeys "config" Config.keys entries
      let continuation ← continuation? room entries
      let openTail ← openTail? room entries
      let newline ← newline? room entries
      let encoding ← entries.encoding?
      let markers ← entries.markers?
      let sentinels ← entries.sentinels?
      let tags ← entries.tags?
      return { markers, sentinels, tags, continuation, openTail, newline, encoding }) := by
  simp only [Config.ofEntries, markers?, sentinels?, tags?, bind_assoc]
  rfl

/-- Why a mapping is no configuration, other than for a problem. The checks are made in a fixed
order, and those before have all passed. -/
inductive Config.Unforeseen (room : Nat) (entries : Entries) : Defect → Prop
  | keys (unnamed : entries.Unnamed) : Unforeseen room entries (unlisted Config.keys entries)
  | continuation {cause : Defect} (keys : Passes (checkKeys "config" Config.keys entries))
      (refused : ¬Passes (continuation? room entries))
      (unshown : entries.Unshown room "param_continuation" cause) : Unforeseen room entries cause
  | openTail {cause : Defect} (keys : Passes (checkKeys "config" Config.keys entries))
      (continuation : Passes (continuation? room entries))
      (refused : ¬Passes (openTail? room entries))
      (unshown : entries.Unshown room "on_unterminated" cause) : Unforeseen room entries cause
  | newline {cause : Defect} (keys : Passes (checkKeys "config" Config.keys entries))
      (continuation : Passes (continuation? room entries))
      (openTail : Passes (openTail? room entries)) (refused : ¬Passes (newline? room entries))
      (unshown : entries.Unshown room "newline" cause) : Unforeseen room entries cause
  | markers {cause : Defect} (options : entries.Plain room)
      (unnamed : entries.UnnamedIn "markers" Markers.keys cause) : Unforeseen room entries cause
  | sentinels {cause : Defect} (options : entries.Plain room) (markers : Passes entries.markers?)
      (unnamed : entries.UnnamedIn "sentinels" Sentinels.keys cause) :
      Unforeseen room entries cause
  | tags {cause : Defect} (options : entries.Plain room) (markers : Passes entries.markers?)
      (sentinels : Passes entries.sentinels?)
      (unnamed : entries.UnnamedIn "tags" Tags.keys cause) : Unforeseen room entries cause

theorem Config.ofEntries_refuses (room : Nat) (entries : Entries) :
    Refuses (Config.ofEntries room entries) (Config.Unforeseen room entries) := by
  have markersRefused : Refuses entries.markers? (entries.UnnamedIn "markers" Markers.keys) :=
    (group_refuses "markers" entries).foreseen_bind Markers.ofEntries_refuses
  have sentinelsRefused :
      Refuses entries.sentinels? (entries.UnnamedIn "sentinels" Sentinels.keys) :=
    (group_refuses "sentinels" entries).foreseen_bind Sentinels.ofEntries_refuses
  have tagsRefused : Refuses entries.tags? (entries.UnnamedIn "tags" Tags.keys) :=
    (group_refuses "tags" entries).foreseen_bind Tags.ofEntries_refuses
  rw [ofEntries_eq]
  apply Refuses.congr
  · apply (checkKeys_refuses "config" Config.keys entries).bind_passes
    intro _
    apply Refuses.bind_passes (choice_refuses room _ _ _ _ entries)
    intro continuation
    apply Refuses.bind_passes (choice_refuses room _ _ _ _ entries)
    intro openTail
    apply (newline?_refuses room entries).bind_passes
    intro newline
    apply (encoding?_refuses entries).bind_passes
    intro encoding
    apply markersRefused.bind_passes
    intro markers
    apply sentinelsRefused.bind_passes
    intro sentinels
    apply tagsRefused.bind_foreseen
    intro tags
    exact .ok _
  · intro cause
    constructor
    · rintro (⟨unnamed, rfl⟩ | ⟨keys, ⟨refused, unshown⟩ | ⟨continuation, ⟨refused, unshown⟩ |
        ⟨openTail, ⟨refused, unshown⟩ | ⟨newline, impossible | ⟨encoding, groups⟩⟩⟩⟩⟩)
      · exact .keys unnamed
      · exact .continuation keys refused unshown
      · exact .openTail keys continuation refused unshown
      · exact .newline keys continuation openTail refused unshown
      · exact impossible.elim
      · have options : entries.Plain room := ⟨keys, continuation, openTail, newline, encoding⟩
        rcases groups with unnamed | ⟨markers, unnamed | ⟨sentinels, unnamed⟩⟩
        · exact .markers options unnamed
        · exact .sentinels options markers unnamed
        · exact .tags options markers sentinels unnamed
    · intro unforeseen
      cases unforeseen with
      | keys unnamed => exact .inl ⟨unnamed, rfl⟩
      | continuation keys refused unshown => exact .inr ⟨keys, .inl ⟨refused, unshown⟩⟩
      | openTail keys continuation refused unshown =>
          exact .inr ⟨keys, .inr ⟨continuation, .inl ⟨refused, unshown⟩⟩⟩
      | newline keys continuation openTail refused unshown =>
          exact .inr ⟨keys, .inr ⟨continuation, .inr ⟨openTail, .inl ⟨refused, unshown⟩⟩⟩⟩
      | markers options unnamed =>
          obtain ⟨keys, continuation, openTail, newline, encoding⟩ := options
          exact .inr ⟨keys, .inr ⟨continuation, .inr ⟨openTail, .inr ⟨newline, .inr ⟨encoding,
            .inl unnamed⟩⟩⟩⟩⟩
      | sentinels options markers unnamed =>
          obtain ⟨keys, continuation, openTail, newline, encoding⟩ := options
          exact .inr ⟨keys, .inr ⟨continuation, .inr ⟨openTail, .inr ⟨newline, .inr ⟨encoding,
            .inr ⟨markers, .inl unnamed⟩⟩⟩⟩⟩⟩
      | tags options markers sentinels unnamed =>
          obtain ⟨keys, continuation, openTail, newline, encoding⟩ := options
          exact .inr ⟨keys, .inr ⟨continuation, .inr ⟨openTail, .inr ⟨newline, .inr ⟨encoding,
            .inr ⟨markers, .inr ⟨sentinels, unnamed⟩⟩⟩⟩⟩⟩⟩

theorem Config.not_unforeseen_nil (room : Nat) (cause : Defect) :
    ¬Config.Unforeseen room [] cause := by
  intro unforeseen
  have failed := ((ofEntries_refuses room []).defect cause).mpr unforeseen
  cases failed

theorem Config.ofValue_refuses (room : Nat) (value : Value) :
    Refuses (Config.ofValue room value) fun cause =>
      ∃ entries, ofMapping? value = some entries ∧ Config.Unforeseen room entries cause := by
  unfold Config.ofValue
  split
  · rename_i void
    apply (Refuses.ok _).of_impossible
    rintro cause ⟨entries, mapping, unforeseen⟩
    have empty : entries = [] := by
      cases value <;> cases mapping
      · exact List.isEmpty_iff.mp void
      · exact List.isEmpty_iff.mp void
    rw [empty] at unforeseen
    exact not_unforeseen_nil room cause unforeseen
  · cases mapping : ofMapping? value with
    | some entries =>
        apply (ofEntries_refuses room entries).congr
        intro cause
        simp
    | none =>
        apply (Refuses.error _).of_impossible
        simp

namespace Config

/-- Why a file gives no configuration, other than for a problem: the system does not say what is
there, or its content is a mapping that is no configuration. -/
inductive Unloaded (platform : Platform) (before : List Text) (path : Path) (files : FileSystem) :
    Defect → Prop
  | unseen {fault : FileFault} (legal : path.hasNul = false)
      (refused : platform.locate files path = .error fault) (grave : fault.answersNo = false) :
      Unloaded platform before path files (.file fault path)
  | entries {text : Text} {value : Value} {entries : Entries} {cause : Defect}
      (held : fileText platform path files = .ok text)
      (loaded : platform.load before text = .ok value) (mapping : ofMapping? value = some entries)
      (unforeseen : Unforeseen platform.room entries cause) :
      Unloaded platform before path files cause

def Raised (platform : Platform) (before : List Text) (path : Path) (files : FileSystem)
    (cause : Defect) : Prop :=
  ∃ text, fileText platform path files = .ok text ∧
    platform.load before text = .error (.defect cause)

variable (platform : Platform) (before : List Text) (path : Path) (files : FileSystem)

theorem fileText_refuses :
    Refuses (fileText platform path files) fun cause =>
      ∃ fault, platform.isFile files path = .error fault ∧ cause = .file fault path := by
  unfold fileText
  cases seen : platform.isFile files path with
  | error fault =>
      constructor
      · intro problem failed
        cases failed
      · intro cause
        simp [eq_comm]
  | ok there =>
      have answered : ∀ cause, ¬∃ fault,
          (Except.ok there : Except FileFault Bool) = .error fault ∧
            cause = Defect.file fault path := by
        rintro cause ⟨fault, impossible, -⟩
        cases impossible
      cases there with
      | false => exact (Refuses.error _).of_impossible answered
      | true =>
          simp only
          split
          · exact (Refuses.error _).of_impossible answered
          · split
            · exact (Refuses.error _).of_impossible answered
            · exact (Refuses.ok _).of_impossible answered

theorem ofContent_refuses (room : Nat) (content : Except Yaml.Fault Value) :
    Refuses (ofContent room path content) fun cause =>
      content = .error (.defect cause) ∨ ∃ value entries, content = .ok value ∧
        ofMapping? value = some entries ∧ Unforeseen room entries cause := by
  unfold ofContent
  split
  · apply (Refuses.error _).of_impossible
    simp
  · constructor
    · intro problem failed
      cases failed
    · intro cause
      simp
  · apply (ofValue_refuses room .null).congr
    intro cause
    simp
  · rename_i value _
    cases mapping : ofMapping? value with
    | some entries =>
        apply (ofValue_refuses room value).congr
        intro cause
        simp
    | none =>
        apply (Refuses.error _).of_impossible
        simp [mapping]

/-- A configuration file is refused for a problem, for one of the reasons given, or because its
loader fails. -/
theorem load_refuses :
    Refuses (load platform before path files) fun cause =>
      Unloaded platform before path files cause ∨ Raised platform before path files cause := by
  apply ((fileText_refuses platform path files).bind fun text =>
    ofContent_refuses path platform.room (platform.load before text)).congr
  intro cause
  constructor
  · rintro (⟨fault, unseen, rfl⟩ | ⟨text, held, raised | ⟨value, entries, loaded, mapping,
      unforeseen⟩⟩)
    · obtain ⟨legal, refused, grave⟩ := Platform.isFile_eq_error_iff.mp unseen
      exact .inl (.unseen legal refused grave)
    · exact .inr ⟨text, held, raised⟩
    · exact .inl (.entries held loaded mapping unforeseen)
  · rintro (unloaded | ⟨text, held, raised⟩)
    · cases unloaded with
      | unseen legal refused grave =>
          exact .inl ⟨_, Platform.isFile_eq_error_iff.mpr ⟨legal, refused, grave⟩, rfl⟩
      | entries held loaded mapping unforeseen =>
          exact .inr ⟨_, held, .inr ⟨_, _, loaded, mapping, unforeseen⟩⟩
    · exact .inr ⟨text, held, .inl raised⟩

end Config

end Docblock

import Docblock.Conversion
import Docblock.Platform.Standard
import Docblock.Proofs.Acceptance
import Docblock.Proofs.Scan

namespace Docblock

namespace FileSystem

def SameExcept (place : Place) (before after : FileSystem) : Prop :=
  ∀ other, other ≠ place → after.get? other = before.get? other

variable {files : FileSystem} {place : Place}

theorem sameExcept_set (free : files.get? place ≠ some .directory) (node : Node) :
    SameExcept place files (files.set place node) ∧
      (files.set place node).get? place = some node := by
  constructor
  · intro other different
    rw [get?_set free other node, if_neg different]
  · rw [get?_set free place node, if_pos rfl]

theorem directory_of_set (free : files.get? place ≠ some .directory) {other : Place}
    {content : Bytes} (directory : (files.set place (.file content)).get? other = some .directory) :
    files.get? other = some .directory := by
  rw [get?_set free] at directory
  split at directory
  · cases directory
  · exact directory

end FileSystem

/-- A destination that can be opened: its directory is there, and the system opens it at a place. -/
structure Platform.Opens (platform : Platform) (files : FileSystem) (path : Path) (place : Place) :
    Prop where
  directory : platform.isDirectory files path.parent = .ok true
  legal : path.hasNul = false
  target : platform.target files path = .ok place

theorem Platform.target_ok {platform : Platform} {files : FileSystem} {path : Path} {place : Place}
    (opened : platform.target files path = .ok place) :
    platform.locate files path = .ok place ∧ files.get? place ≠ some .directory := by
  unfold target at opened
  cases located : platform.locate files path with
  | error fault =>
      rw [located] at opened
      cases opened
  | ok found =>
      simp only [located, bind, Except.bind] at opened
      split at opened
      · cases opened
      · rename_i free
        split at opened
        · cases opened
        · cases opened
          exact ⟨rfl, free⟩

theorem Platform.Opens.located {platform : Platform} {files : FileSystem} {path : Path}
    {place : Place} (opens : platform.Opens files path place) :
    platform.locate files path = .ok place :=
  (target_ok opens.target).1

theorem Platform.Opens.free {platform : Platform} {files : FileSystem} {path : Path}
    {place : Place} (opens : platform.Opens files path place) :
    files.get? place ≠ some .directory :=
  (target_ok opens.target).2

theorem Platform.Opens.unique {platform : Platform} {files : FileSystem} {path : Path}
    {place other : Place} (opens : platform.Opens files path place)
    (again : platform.Opens files path other) : place = other :=
  Except.ok.inj (opens.target.symm.trans again.target)

def Failure.ofDestination : Failure → Bool
  | .problem (.destination _ _) => true
  | _ => false

theorem error_of_bind_eq_error {ε α β : Type} {first : Except ε α} {next : α → Except ε β}
    {failure : ε} (failed : (first >>= next) = .error failure) :
    first = .error failure ∨ ∃ value, first = .ok value ∧ next value = .error failure := by
  cases first with
  | error cause => exact .inl (congrArg Except.error (Except.error.inj failed))
  | ok value => exact .inr ⟨value, rfl, failed⟩

theorem ok_of_mapError_eq_ok {ε ζ α : Type} {first : Except ε α} {f : ε → ζ} {value : α}
    (ok : first.mapError f = .ok value) : first = .ok value := by
  cases first with
  | error cause => cases ok
  | ok found => exact congrArg Except.ok (Except.ok.inj ok)

theorem error_of_mapError_eq_error {ε ζ α : Type} {first : Except ε α} {f : ε → ζ} {failure : ζ}
    (failed : first.mapError f = .error failure) :
    ∃ cause, first = .error cause ∧ failure = f cause := by
  cases first with
  | error cause => exact ⟨cause, rfl, (Except.error.inj failed).symm⟩
  | ok value => cases failed

namespace Conversion

/-- The text of a source file in the encoding of a configuration. -/
structure Decoded (platform : Platform) (config : Config) (files : FileSystem) (source : Path)
    (codec : Codec) (text : Text) : Prop where
  named : platform.codec config.encoding = .ok codec
  read : ∃ bytes, platform.read files source = .ok bytes ∧ codec.decode bytes = .ok text

variable {platform : Platform} {config : Config} {files : FileSystem} {source : Path}

theorem decoded_of_readSource {codec : Codec} {text : Text}
    (ok : readSource platform files source config = .ok (codec, text)) :
    Decoded platform config files source codec text := by
  simp only [readSource] at ok
  split at ok
  · cases ok
  · split at ok
    · cases ok
    · obtain ⟨bytes, read, ok⟩ := exists_of_bind_eq_ok ok
      obtain ⟨found, named, ok⟩ := exists_of_bind_eq_ok ok
      obtain ⟨decoded, decode, ok⟩ := exists_of_bind_eq_ok ok
      obtain ⟨rfl, rfl⟩ := Prod.mk.inj (Except.ok.inj ok)
      exact ⟨ok_of_mapError_eq_ok named, bytes, ok_of_mapError_eq_ok read,
        ok_of_mapError_eq_ok decode⟩

theorem ofDestination_readSource {failure : Failure}
    (failed : readSource platform files source config = .error failure) :
    failure.ofDestination = false := by
  simp only [readSource] at failed
  split at failed
  · rw [← Except.error.inj failed]
    rfl
  · split at failed
    · rw [← Except.error.inj failed]
      rfl
    · rcases error_of_bind_eq_error failed with unread | ⟨bytes, -, failed⟩
      · obtain ⟨fault, -, rfl⟩ := error_of_mapError_eq_error unread
        rfl
      · rcases error_of_bind_eq_error failed with unnamed | ⟨codec, -, failed⟩
        · obtain ⟨defect, -, rfl⟩ := error_of_mapError_eq_error unnamed
          rfl
        · rcases error_of_bind_eq_error failed with undecoded | ⟨text, -, done⟩
          · obtain ⟨stop, -, rfl⟩ := error_of_mapError_eq_error undecoded
            cases stop with
            | refused reason => rfl
            | broken message => rfl
          · cases done

end Conversion

theorem State.finish_source {config : Config} {source : Option Path} {state : State}
    (closed : (state.finish config source).2.2 = none) (name : Option Path) :
    state.finish config name = state.finish config source := by
  unfold State.finish at closed ⊢
  split
  · rfl
  · rename_i nonempty
    rw [if_neg nonempty] at closed
    cases policy : config.openTail with
    | error => simp [policy] at closed
    | flush => rfl
    | drop => rfl

theorem convertText_name {config : Config} {source : Option Path} {text : Text} {context : Context}
    (converted : convertText config source text = (context, none)) (name : Option Path) :
    convertText config name text = (context, none) := by
  have closed : ((State.feed config 1 text.lines {}).1.finish config source).2.2 = none :=
    congrArg Prod.snd converted
  have same := State.finish_source closed name
  rw [← converted]
  simp only [convertText, convertLines, Context.run, State.run, same]

namespace Conversion

variable {platform : Platform} {config : Config} {files : FileSystem} {source destination : Path}

theorem openDestination_eq_ok_iff {place : Place} :
    openDestination platform files destination = .ok place ↔
      platform.Opens files destination place := by
  constructor
  · intro opened
    unfold openDestination at opened
    split at opened
    · cases opened
    · cases opened
    · rename_i directory
      split at opened
      · cases opened
      · rename_i legal
        exact ⟨directory, Bool.not_eq_true _ ▸ legal, ok_of_mapError_eq_ok opened⟩
  · intro ⟨directory, legal, target⟩
    simp only [openDestination, directory, legal, target]
    rfl

/-- The courses that a conversion of files can take. -/
inductive Course (platform : Platform) (config : Config) (source destination : Path)
    (files : FileSystem) : Outcome Report → Prop
  | stopped {log : List Record} {failure : Failure} (elsewhere : failure.ofDestination = false) :
      Course platform config source destination files ⟨files, log, .error failure⟩
  | refused {log : List Record} {codec : Codec} {text : Text} {context : Context}
      {failure : Failure} (decoded : Decoded platform config files source codec text)
      (converted : convertText config none text = (context, none))
      (refused : openDestination platform files destination = .error failure) :
      Course platform config source destination files ⟨files, log, .error failure⟩
  | emptied {log : List Record} {codec : Codec} {text : Text} {context : Context} {place : Place}
      {reason : Text} (decoded : Decoded platform config files source codec text)
      (converted : convertText config none text = (context, none))
      (opens : platform.Opens files destination place)
      (refused : codec.encode context.text = .error (.refused reason)) :
      Course platform config source destination files
        ⟨files.set place (.file []), log,
          .error (.problem (.destination destination (.encode reason)))⟩
  | broken {log : List Record} {codec : Codec} {text : Text} {context : Context} {place : Place}
      {message : Text} (decoded : Decoded platform config files source codec text)
      (converted : convertText config none text = (context, none))
      (opens : platform.Opens files destination place)
      (broken : codec.encode context.text = .error (.broken message)) :
      Course platform config source destination files
        ⟨files.set place (.file []), log, .error (.defect (.foreign message))⟩
  | cut {log : List Record} {codec : Codec} {text : Text} {context : Context} {place : Place}
      {bytes : Bytes} {count : Nat} {fault : FileFault}
      (decoded : Decoded platform config files source codec text)
      (converted : convertText config none text = (context, none))
      (opens : platform.Opens files destination place)
      (encoded : codec.encode context.text = .ok bytes)
      (stopped : platform.interruption? files place bytes = some (count, fault)) :
      Course platform config source destination files
        ⟨files.set place (.file (bytes.take count)), log,
          .error (.problem (.destination destination (.file fault)))⟩
  | written {log : List Record} {codec : Codec} {text : Text} {context : Context} {place : Place}
      {bytes : Bytes} (decoded : Decoded platform config files source codec text)
      (converted : convertText config none text = (context, none))
      (opens : platform.Opens files destination place)
      (encoded : codec.encode context.text = .ok bytes) :
      Course platform config source destination files
        ⟨files.set place (.file bytes), log, .ok ⟨source, destination, context.stats⟩⟩

theorem convertFile_course (platform : Platform) (config : Config) (source destination : Path)
    (files : FileSystem) :
    Course platform config source destination files
      (convertFile platform config source destination files) := by
  unfold convertFile convertSource
  cases read : readSource platform files source config with
  | error failure => exact .stopped (ofDestination_readSource read)
  | ok result =>
      obtain ⟨codec, text⟩ := result
      have decoded := decoded_of_readSource read
      cases converted : convertLines config (some source) text.lines with
      | mk context unclosed =>
          cases unclosed with
          | some block =>
              simp only [converted]
              exact .stopped rfl
          | none =>
              have unnamed := convertText_name converted none
              simp only [converted, writeDestination]
              cases opened : openDestination platform files destination with
              | error failure => exact .refused decoded unnamed opened
              | ok place =>
                  have opens := openDestination_eq_ok_iff.mp opened
                  rcases encoded : codec.encode context.text with (reason | message) | bytes
                  · exact .emptied decoded unnamed opens encoded
                  · exact .broken decoded unnamed opens encoded
                  · simp only
                    rcases stopped : platform.interruption? files place bytes with
                      _ | ⟨count, fault⟩
                    · exact .written decoded unnamed opens encoded
                    · exact .cut decoded unnamed opens encoded stopped

theorem sameExcept_of_opens {place : Place} (opens : platform.Opens files destination place)
    (content : Bytes) :
    files.SameExcept place (files.set place (.file content)) ∧
      (files.set place (.file content)).get? place = some (.file content) :=
  FileSystem.sameExcept_set opens.free (.file content)

theorem sameElsewhere_of_opens {place : Place} (opens : platform.Opens files destination place)
    (content : Bytes) (other : Place) (elsewhere : platform.locate files destination ≠ .ok other) :
    (files.set place (.file content)).get? other = files.get? other := by
  apply (sameExcept_of_opens opens content).1
  rintro rfl
  exact elsewhere opens.located

/-- What a run that succeeds does to the files. -/
def Delivered (platform : Platform) (config : Config) (source destination : Path)
    (before after : FileSystem) : Prop :=
  ∃ place codec text context bytes,
    platform.locate before destination = .ok place ∧
    Decoded platform config before source codec text ∧
    convertText config none text = (context, none) ∧
    codec.encode context.text = .ok bytes ∧
    after.get? place = some (.file bytes) ∧
    before.SameExcept place after

/-- What a run does to the files if the system stops its write of some bytes. -/
def Cut (platform : Platform) (destination : Path) (bytes : Bytes) (before after : FileSystem) :
    Prop :=
  ∃ place count fault,
    platform.Opens before destination place ∧
    platform.interruption? before place bytes = some (count, fault) ∧
    after.get? place = some (.file (bytes.take count)) ∧
    before.SameExcept place after

theorem cut_of_opens {place : Place} {bytes : Bytes} {count : Nat} {fault : FileFault}
    (opens : platform.Opens files destination place)
    (stopped : platform.interruption? files place bytes = some (count, fault)) :
    Cut platform destination bytes files (files.set place (.file (bytes.take count))) := by
  obtain ⟨same, here⟩ := sameExcept_of_opens opens (bytes.take count)
  exact ⟨place, count, fault, opens, stopped, here, same⟩

/-- What a run that fails for its destination does to the files. -/
structure Undelivered (platform : Platform) (config : Config) (source destination : Path)
    (before after : FileSystem) : Prop where
  others : ∀ place, platform.locate before destination ≠ .ok place →
    after.get? place = before.get? place
  directories : ∀ place, after.get? place = some .directory → before.get? place = some .directory
  content : ∃ codec text context,
    Decoded platform config before source codec text ∧
    convertText config none text = (context, none) ∧
    ((∀ place, ¬platform.Opens before destination place) → after = before) ∧
    ∀ place, platform.Opens before destination place →
      (∃ reason, codec.encode context.text = .error (.refused reason)) ∧
        after.get? place = some (.file []) ∨
      ∃ bytes, codec.encode context.text = .ok bytes ∧
        Cut platform destination bytes before after

/-- What a run does to the files if its encoder fails in a way of its own. -/
def Spoiled (platform : Platform) (config : Config) (source destination : Path)
    (before after : FileSystem) : Prop :=
  ∃ place codec text context message,
    platform.Opens before destination place ∧
    Decoded platform config before source codec text ∧
    convertText config none text = (context, none) ∧
    codec.encode context.text = .error (.broken message) ∧
    after.get? place = some (.file []) ∧
    before.SameExcept place after

namespace Course

variable {outcome : Outcome Report}

theorem delivered {report : Report}
    (course : Course platform config source destination files outcome)
    (succeeded : outcome.result = .ok report) :
    Delivered platform config source destination files outcome.files := by
  cases course with
  | stopped => cases succeeded
  | refused => cases succeeded
  | emptied => cases succeeded
  | broken => cases succeeded
  | cut => cases succeeded
  | @written _ codec text context place bytes decoded converted opens encoded =>
      obtain ⟨same, here⟩ := sameExcept_of_opens opens bytes
      exact ⟨place, codec, text, context, bytes, opens.located, decoded,
        converted, encoded, here, same⟩

theorem unchanged {problem : Problem}
    (course : Course platform config source destination files outcome)
    (failed : outcome.result = .error (.problem problem))
    (elsewhere : (Failure.problem problem).ofDestination = false) : outcome.files = files := by
  cases course with
  | stopped => rfl
  | refused => rfl
  | emptied =>
      rw [← Except.error.inj failed] at elsewhere
      cases elsewhere
  | broken => cases failed
  | cut =>
      rw [← Except.error.inj failed] at elsewhere
      cases elsewhere
  | written => cases failed

theorem undelivered {failure : Failure}
    (course : Course platform config source destination files outcome)
    (failed : outcome.result = .error failure) (ofDestination : failure.ofDestination = true) :
    Undelivered platform config source destination files outcome.files := by
  cases course with
  | stopped elsewhere =>
      rw [Except.error.inj failed, ofDestination] at elsewhere
      cases elsewhere
  | @refused _ codec text context cause decoded converted refused =>
      refine ⟨fun _ _ => rfl, fun _ held => held, codec, text, context, decoded, converted,
        fun _ => rfl, ?_⟩
      intro place opens
      rw [openDestination_eq_ok_iff.mpr opens] at refused
      cases refused
  | @emptied _ codec text context place reason decoded converted opens refused =>
      refine ⟨sameElsewhere_of_opens opens [], ?_, codec, text, context, decoded, converted, ?_, ?_⟩
      · intro other held
        exact FileSystem.directory_of_set opens.free held
      · intro closed
        exact absurd opens (closed place)
      · intro other again
        obtain rfl := opens.unique again
        exact .inl ⟨⟨reason, refused⟩, (sameExcept_of_opens opens []).2⟩
  | broken =>
      rw [← Except.error.inj failed] at ofDestination
      cases ofDestination
  | @cut _ codec text context place bytes count fault decoded converted opens encoded stopped =>
      refine ⟨sameElsewhere_of_opens opens _, ?_, codec, text, context, decoded, converted, ?_, ?_⟩
      · intro other held
        exact FileSystem.directory_of_set opens.free held
      · intro closed
        exact absurd opens (closed place)
      · intro _ _
        exact .inr ⟨bytes, encoded, cut_of_opens opens stopped⟩
  | written => cases failed

theorem spoiled {cause : Defect}
    (course : Course platform config source destination files outcome)
    (failed : outcome.result = .error (.defect cause)) :
    outcome.files = files ∨ Spoiled platform config source destination files outcome.files := by
  cases course with
  | stopped => exact .inl rfl
  | refused => exact .inl rfl
  | emptied => cases failed
  | @broken _ codec text context place message decoded converted opens broken =>
      obtain ⟨same, here⟩ := sameExcept_of_opens opens []
      exact .inr ⟨place, codec, text, context, message, opens, decoded, converted, broken, here,
        same⟩
  | cut => cases failed
  | written => cases failed

theorem unnamed {cause : Defect}
    (course : Course platform config source destination files outcome)
    (unknown : platform.codec config.encoding = .error cause) : outcome.files = files := by
  have undecoded : ∀ codec text, ¬Decoded platform config files source codec text := by
    intro codec text decoded
    rw [decoded.named] at unknown
    cases unknown
  cases course with
  | stopped => rfl
  | refused => rfl
  | emptied decoded => exact absurd decoded (undecoded _ _)
  | broken decoded => exact absurd decoded (undecoded _ _)
  | cut decoded => exact absurd decoded (undecoded _ _)
  | written decoded => exact absurd decoded (undecoded _ _)

end Course

end Conversion

/-- A run that succeeds writes its text at the destination and nothing else. One that fails for
another problem, or because nobody knows the encoding, changes nothing. One that fails for its
destination leaves an empty file there if that can be opened and the text cannot be encoded, and the
first part of the text if the system stops the write; otherwise it changes nothing. -/
theorem convertFile_frame (platform : Platform) (config : Config) (source destination : Path)
    (files : FileSystem) :
    let outcome := convertFile platform config source destination files
    (∀ report, outcome.result = .ok report →
      Conversion.Delivered platform config source destination files outcome.files) ∧
    (∀ problem, outcome.result = .error (.problem problem) →
      (∀ path fault, problem ≠ .destination path fault) → outcome.files = files) ∧
    (∀ cause, platform.codec config.encoding = .error cause → outcome.files = files) ∧
    (∀ path fault, outcome.result = .error (.problem (.destination path fault)) →
      Conversion.Undelivered platform config source destination files outcome.files) ∧
    (∀ cause, outcome.result = .error (.defect cause) → outcome.files = files ∨
      Conversion.Spoiled platform config source destination files outcome.files) := by
  intro outcome
  have course := Conversion.convertFile_course platform config source destination files
  refine ⟨?_, ?_, ?_, ?_, ?_⟩
  · intro report succeeded
    exact course.delivered succeeded
  · intro problem failed elsewhere
    apply course.unchanged failed
    cases problem with
    | destination path fault => exact absurd rfl (elsewhere path fault)
    | _ => rfl
  · intro cause unknown
    exact course.unnamed unknown
  · intro path fault failed
    exact course.undelivered failed rfl
  · intro cause failed
    exact course.spoiled failed

def Outcome.writeFault? (outcome : Outcome Report) : Option (Path × WriteFault) :=
  match outcome.result with
  | .error (.problem (.destination path fault)) => some (path, fault)
  | _ => none

theorem Outcome.result_of_writeFault? {outcome : Outcome Report}
    (some : outcome.writeFault?.isSome = true) :
    ∃ path fault, outcome.result = .error (.problem (.destination path fault)) := by
  unfold writeFault? at some
  split at some
  · rename_i path fault failed
    exact ⟨path, fault, failed⟩
  · cases some

/-- A disk on which every write stops after some bytes. -/
def Platform.full (count : Nat) : Platform :=
  { Platform.standard with
    interruption? := fun _ _ _ => some (count, ⟨28, "No space left on device".toList⟩) }

/-- A file that is converted into itself, one that is emptied because it cannot hold the text, and
one that is cut off because the system stops the write. -/
theorem convertFile_frame_in_place :
    let config : Config := { tags := { summary := ['Ω'] }, encoding := some "ascii".toList }
    let path : Path := ⟨.relative, [['a']]⟩
    let text := "\x7b@@ Summary: s \x7d\n".toList
    let files : FileSystem := { entries := [(⟨[['a']]⟩, .file (Utf8.encode text))] }
    let converted := convertFile .standard {} path path files
    let emptied := convertFile .standard config path path files
    let stopped := convertFile (.full 3) {} path path files
    (∃ report, converted.result = .ok report) ∧
      Conversion.Delivered .standard {} path path files converted.files ∧
      Conversion.Undelivered .standard config path path files emptied.files ∧
      emptied.files.get? ⟨[['a']]⟩ = some (.file []) ∧
      Conversion.Undelivered (.full 3) {} path path files stopped.files ∧
      stopped.files.get? ⟨[['a']]⟩ = some (.file (Utf8.encode "///".toList)) := by
  intro config path text files converted emptied stopped
  obtain ⟨report, succeeded⟩ : ∃ report, converted.result = .ok report := ⟨_, rfl⟩
  have refused : emptied.writeFault?.isSome = true := by decide +kernel
  obtain ⟨_, _, unencodable⟩ := Outcome.result_of_writeFault? refused
  have failed : stopped.writeFault?.isSome = true := by decide +kernel
  obtain ⟨_, _, partly⟩ := Outcome.result_of_writeFault? failed
  obtain ⟨delivered, -⟩ := convertFile_frame .standard {} path path files
  obtain ⟨-, -, -, empty, -⟩ := convertFile_frame .standard config path path files
  obtain ⟨-, -, -, cut, -⟩ := convertFile_frame (.full 3) {} path path files
  exact ⟨⟨report, succeeded⟩, delivered report succeeded, empty _ _ unencodable,
    by decide +kernel, cut _ _ partly, by decide +kernel⟩

/-- A destination inside a directory that cannot be opened, because its name is too long: the text
cannot be encoded, and still no empty file is left. A write that the system stops leaves neither an
empty file nor the one that was there. -/
theorem convertFile_refused_and_cut :
    let config : Config := { tags := { summary := ['Ω'] }, encoding := some "ascii".toList }
    let source : Path := ⟨.relative, [['a']]⟩
    let destination : Path := ⟨.relative, [List.replicate 256 'b']⟩
    let text := "\x7b@@ Summary: s \x7d\n".toList
    let files : FileSystem := { entries := [(⟨[['a']]⟩, .file (Utf8.encode text))] }
    let outcome := convertFile .standard config source destination files
    let stopped := convertFile (.full 3) {} source source files
    (config.Accepted ∧
      (∃ path fault, outcome.result = .error (.problem (.destination path fault))) ∧
      Platform.standard.isDirectory files destination.parent = .ok true ∧
      Platform.standard.isDirectory files destination ≠ .ok true ∧
      (∃ context reason,
        Conversion.Decoded .standard config files source Encoding.ascii.codec text ∧
        convertText config none text = (context, none) ∧
        Encoding.ascii.codec.encode context.text = .error (.refused reason)) ∧
      outcome.files.get? ⟨[List.replicate 256 'b']⟩ = none) ∧
    (∃ path fault, stopped.result = .error (.problem (.destination path fault))) ∧
      stopped.files.get? ⟨[['a']]⟩ = some (.file (Utf8.encode "///".toList)) := by
  intro config source destination text files outcome stopped
  have accepted : config.Accepted :=
    ⟨1, .map [(.text "tags".toList, .map [(.text "summary".toList, .text ['Ω'])]),
      (.text "encoding".toList, .text "ascii".toList)], rfl⟩
  have decoded : Conversion.Decoded .standard config files source Encoding.ascii.codec text :=
    ⟨rfl, _, rfl, rfl⟩
  have failed : outcome.writeFault?.isSome = true := by decide +kernel
  have failedAgain : stopped.writeFault?.isSome = true := by decide +kernel
  have closed : (convertText config none text).2 = none := rfl
  have unencodable : ∃ reason, Encoding.ascii.codec.encode (convertText config none text).1.text =
      .error (.refused reason) := by
    have stopped : (match Encoding.ascii.codec.encode (convertText config none text).1.text with
        | .error (.refused _) => true
        | _ => false) = true := by
      decide +kernel
    split at stopped
    · rename_i reason refused
      exact ⟨reason, refused⟩
    · cases stopped
  have converted : convertText config none text = ((convertText config none text).1, none) :=
    Prod.ext rfl closed
  have directory : Platform.standard.isDirectory files destination.parent = .ok true := rfl
  have free : (Platform.standard.isDirectory files destination).toOption = none := by
    decide +kernel
  obtain ⟨reason, refused⟩ := unencodable
  refine ⟨⟨accepted, Outcome.result_of_writeFault? failed, directory, ?_,
    ⟨_, reason, decoded, converted, refused⟩, ?_⟩, Outcome.result_of_writeFault? failedAgain, ?_⟩
  · intro impossible
    rw [impossible] at free
    cases free
  · decide +kernel
  · decide +kernel

end Docblock

import Docblock.CommandLine.Run
import Docblock.Proofs.Destination
import Docblock.Proofs.Refusal

namespace Docblock

theorem Refuses.ofDestination {α : Type} {check : Except Failure α} {unforeseen : Defect → Prop}
    (refuses : Refuses check unforeseen) {failure : Failure} (failed : check = .error failure) :
    failure.ofDestination = false := by
  cases failure with
  | defect cause => rfl
  | problem problem =>
      obtain ⟨error, rfl⟩ := refuses.problem problem failed
      rfl

namespace Conversion

variable {platform : Platform} {config : Config} {files : FileSystem} {source destination : Path}

theorem ofDestination_convertSource {failure : Failure}
    (failed : (convertSource platform config source files).2 = .error failure) :
    failure.ofDestination = false := by
  unfold convertSource at failed
  split at failed
  · rename_i cause unread
    cases failed
    exact ofDestination_readSource unread
  · rename_i codec text read
    rcases converted : convertLines config (some source) text.lines with ⟨context, unclosed⟩
    simp only [converted] at failed
    cases unclosed with
    | some block =>
        cases failed
        rfl
    | none => cases failed

theorem openDestination_problem {problem : Problem}
    (refused : openDestination platform files destination = .error (.problem problem)) :
    ∃ fault, problem = .destination destination fault := by
  unfold openDestination at refused
  split at refused
  · cases refused
  · cases refused
    exact ⟨_, rfl⟩
  · split at refused
    · cases refused
    · obtain ⟨fault, -, same⟩ := error_of_mapError_eq_error refused
      cases same
      exact ⟨_, rfl⟩

theorem Course.relog {outcome : Outcome Report}
    (course : Course platform config source destination files outcome) (log : List Record) :
    Course platform config source destination files { outcome with log } := by
  cases course with
  | stopped elsewhere => exact .stopped elsewhere
  | refused decoded converted refused => exact .refused decoded converted refused
  | emptied decoded converted opens refused => exact .emptied decoded converted opens refused
  | broken decoded converted opens broken => exact .broken decoded converted opens broken
  | cut decoded converted opens encoded stopped =>
      exact .cut decoded converted opens encoded stopped
  | written decoded converted opens encoded => exact .written decoded converted opens encoded

theorem Course.of_problem {outcome : Outcome Report} {problem : Problem}
    (course : Course platform config source destination files outcome)
    (failed : outcome.result = .error (.problem problem)) :
    (Failure.problem problem).ofDestination = false ∧ outcome.files = files ∨
    (∃ fault, problem = .destination destination fault) ∧
      Undelivered platform config source destination files outcome.files := by
  cases elsewhere : (Failure.problem problem).ofDestination with
  | false => exact .inl ⟨rfl, course.unchanged failed elsewhere⟩
  | true =>
      refine .inr ⟨?_, course.undelivered failed elsewhere⟩
      cases course with
      | stopped other =>
          cases failed
          rw [other] at elsewhere
          cases elsewhere
      | refused decoded converted refused =>
          cases failed
          exact openDestination_problem refused
      | emptied =>
          cases failed
          exact ⟨_, rfl⟩
      | broken => cases failed
      | cut =>
          cases failed
          exact ⟨_, rfl⟩
      | written => cases failed

end Conversion

namespace CommandLine

/-- The configuration of a run: that of the file it names, or the default one. -/
def Options.Loads (platform : Platform) (before : List Text) (files : FileSystem)
    (options : Options) (config : Config) : Prop :=
  match options.config with
  | none => config = {}
  | some none => False
  | some (some path) => Config.load platform before path files = .ok config

inductive Course (platform : Platform) (before : List Text) (options : Options)
    (files : FileSystem) : Outcome Report → Prop
  | stopped {log : List Record} {failure : Failure} (elsewhere : failure.ofDestination = false) :
      Course platform before options files ⟨files, log, .error failure⟩
  | converted {config : Config} {destination : Path} {outcome : Outcome Report}
      (loads : options.Loads platform before files config)
      (named : options.destination = some destination)
      (course : Conversion.Course platform config options.source destination files outcome) :
      Course platform before options files outcome

variable {platform : Platform} {before : List Text} {options : Options} {files : FileSystem}

theorem Course.relog {outcome : Outcome Report}
    (course : Course platform before options files outcome) (log : List Record) :
    Course platform before options files { outcome with log } := by
  cases course with
  | stopped elsewhere => exact .stopped elsewhere
  | converted loads named course => exact .converted loads named (course.relog log)

theorem convertTo_course {config : Config}
    (loads : options.Loads platform before files config) :
    Course platform before options files
      (convertTo platform config options.source options.destination files) := by
  cases named : options.destination with
  | some destination =>
      exact .converted loads named
        (Conversion.convertFile_course platform config options.source destination files)
  | none =>
      simp only [convertTo]
      cases converted : (Conversion.convertSource platform config options.source files).2 with
      | error failure => exact .stopped (Conversion.ofDestination_convertSource converted)
      | ok result => exact .stopped rfl

theorem convert_course (platform : Platform) (before : List Text) (options : Options)
    (files : FileSystem) :
    Course platform before options files (convert platform before options files) := by
  unfold convert
  split
  · rename_i unnamed
    apply convertTo_course
    rw [Options.Loads, unnamed]
  · exact .stopped rfl
  · rename_i path named
    cases loaded : Config.load platform before path files with
    | error failure =>
        simp only
        exact .stopped ((Config.load_refuses platform before path files).ofDestination loaded)
    | ok config =>
        have loads : options.Loads platform before files config := by
          rw [Options.Loads, named]
          exact loaded
        simp only
        exact (convertTo_course loads).relog _

/-- A run that has done what it was asked to: the destination holds the conversion of the source, as
it was before the run, every other place is as before, and the report is printed if it was asked
for. -/
def Fulfilled (platform : Platform) (texts : List Text) (options : Options) (before : FileSystem)
    (ended : Ended) : Prop :=
  ∃ config destination place codec text context bytes,
    options.Loads platform texts before config ∧
    options.destination = some destination ∧
    platform.locate before destination = .ok place ∧
    Conversion.Decoded platform config before options.source codec text ∧
    convertText config none text = (context, none) ∧
    codec.encode context.text = .ok bytes ∧
    ended.files.get? place = some (.file bytes) ∧
    before.SameExcept place ended.files ∧
    ended.stdout =
      if options.report then
        Report.toJson ⟨options.source, destination, context.stats⟩ ++ ['\n']
      else []

/-- A run that was stopped by a problem and has reported it. The files are as before, unless the
problem is that of the destination: then at most that has changed, to an empty file or to a part of
what was to be written. -/
structure Reported (platform : Platform) (texts : List Text) (options : Options)
    (before : FileSystem) (ended : Ended) (problem : Problem) : Prop where
  cause : (convert platform texts options before).result = .error (.problem problem)
  stdout : ended.stdout =
    problem.kindName ++ ": ".toList ++ problem.message.stripEnd ++ ['\n']
  elsewhere : (∀ path fault, problem ≠ .destination path fault) → ended.files = before
  destination : ∀ path fault, problem = .destination path fault →
    options.destination = some path ∧ ∃ config, options.Loads platform texts before config ∧
      Conversion.Undelivered platform config options.source path before ended.files

theorem print_files (platform : Platform) (files : FileSystem) (stderr : Text) (code : Nat)
    (text : Text) : (print platform files stderr code text).files = files := by
  unfold print
  split
  · rfl
  · rfl

theorem print_status {stderr text : Text} {code status : Nat}
    (ended : (print platform files stderr code text).ending = .status status) :
    status = code ∧ (print platform files stderr code text).stdout = text := by
  unfold print at ended ⊢
  split at ended
  · cases ended
    exact ⟨rfl, rfl⟩
  · cases ended

theorem Course.fulfilled {outcome : Outcome Report} {report : Report} {ended : Ended}
    (course : Course platform before options files outcome)
    (succeeded : outcome.result = .ok report) (kept : ended.files = outcome.files)
    (printed : ended.stdout = reportText options report) :
    Fulfilled platform before options files ended := by
  cases course with
  | stopped => cases succeeded
  | converted loads named course =>
      cases course with
      | stopped => cases succeeded
      | refused => cases succeeded
      | emptied => cases succeeded
      | broken => cases succeeded
      | cut => cases succeeded
      | @written _ codec text context place bytes decoded converted opens encoded =>
          cases succeeded
          obtain ⟨same, here⟩ := Conversion.sameExcept_of_opens opens bytes
          change ended.files = files.set place (.file bytes) at kept
          rw [← kept] at same here
          exact ⟨_, _, place, codec, text, context, bytes, loads, named,
            opens.located, decoded, converted, encoded, here, same, printed⟩

theorem Course.of_problem {outcome : Outcome Report} {problem : Problem}
    (course : Course platform before options files outcome)
    (failed : outcome.result = .error (.problem problem)) :
    (Failure.problem problem).ofDestination = false ∧ outcome.files = files ∨
    ∃ config path, options.Loads platform before files config ∧
      options.destination = some path ∧ (∃ fault, problem = .destination path fault) ∧
      Conversion.Undelivered platform config options.source path files outcome.files := by
  cases course with
  | stopped elsewhere =>
      cases failed
      exact .inl ⟨elsewhere, rfl⟩
  | @converted config destination _ loads named course =>
      rcases course.of_problem failed with unchanged | changed
      · exact .inl unchanged
      · exact .inr ⟨config, destination, loads, named, changed⟩

theorem Course.reported {problem : Problem} {ended : Ended}
    (course : Course platform before options files (convert platform before options files))
    (failed : (convert platform before options files).result = .error (.problem problem))
    (kept : ended.files = (convert platform before options files).files)
    (printed : ended.stdout = problemText problem) :
    Reported platform before options files ended problem := by
  have ends := course.of_problem failed
  rw [← kept] at ends
  rcases ends with ⟨elsewhere, same⟩ | ⟨config, path, loads, named, ⟨fault, rfl⟩, undelivered⟩
  · refine ⟨failed, printed, fun _ => same, ?_⟩
    rintro path fault rfl
    cases elsewhere
  · refine ⟨failed, printed, ?_, ?_⟩
    · intro other
      exact absurd rfl (other path fault)
    · intro _ _ same
      cases same
      exact ⟨named, config, loads, undelivered⟩

theorem Course.conclude_status {logger : Logger} {code : Nat}
    (course : Course platform before options files (convert platform before options files))
    (ended : (conclude platform options logger
      (convert platform before options files)).ending = .status code) :
    code = 0 ∧ Fulfilled platform before options files
        (conclude platform options logger (convert platform before options files)) ∨
      code = 2 ∧ ∃ problem, Reported platform before options files
        (conclude platform options logger (convert platform before options files)) problem := by
  rcases result : (convert platform before options files).result with (problem | cause) | report
  · simp only [conclude, result] at ended ⊢
    obtain ⟨rfl, printed⟩ := print_status ended
    exact .inr ⟨rfl, problem, course.reported result (print_files _ _ _ _ _) printed⟩
  · simp only [conclude, result] at ended
    cases ended
  · simp only [conclude, result] at ended ⊢
    obtain ⟨rfl, printed⟩ := print_status ended
    exact .inl ⟨rfl, course.fulfilled result (print_files _ _ _ _ _) printed⟩

/-- The status of every run that ends with one tells the truth about the files and the output. -/
theorem exit_status_truthful (platform : Platform) (process : Process) (debug : Option Text)
    (arguments : List Text) (files : FileSystem) :
    let ended := (runIn platform process debug arguments files).2
    (∀ code, ended.ending = .status code → code = 0 ∨ code = 1 ∨ code = 2) ∧
    (Request.parse arguments = .ok .help ∨ Request.parse arguments = .ok .version →
      ended.ending = .status 0 ∧ ended.files = files) ∧
    (ended.ending = .status 1 → ended.files = files ∧ ended.stdout = []) ∧
    (ended.ending = .status 2 → ∃ options problem,
      Request.parse arguments = .ok (.convert options) ∧
        Reported platform process.texts options files ended problem) ∧
    (∀ options, Request.parse arguments = .ok (.convert options) → ended.ending = .status 0 →
      Fulfilled platform process.texts options files ended) := by
  cases parsed : Request.parse arguments with
  | error error => simp [runIn, parsed]
  | ok request =>
      cases request with
      | help => simp [runIn, parsed]
      | version => simp [runIn, parsed]
      | convert options =>
          have course := convert_course platform process.texts options files
          simp only [runIn, parsed]
          refine ⟨?_, ?_, ?_, ?_, ?_⟩
          · intro code ended
            rcases course.conclude_status ended with ⟨rfl, -⟩ | ⟨rfl, -⟩
            · exact .inl rfl
            · exact .inr (.inr rfl)
          · rintro (asked | asked) <;> cases asked
          · intro ended
            rcases course.conclude_status ended with ⟨impossible, -⟩ | ⟨impossible, -⟩
            · cases impossible
            · cases impossible
          · intro ended
            rcases course.conclude_status ended with ⟨impossible, -⟩ | ⟨-, problem, reported⟩
            · cases impossible
            · exact ⟨options, problem, rfl, reported⟩
          · rintro _ same ended
            cases same
            rcases course.conclude_status ended with ⟨-, fulfilled⟩ | ⟨impossible, -⟩
            · exact fulfilled
            · cases impossible

/-- A run without a destination, one that converts a file in place and reports it, and one whose
destination is in no directory. -/
theorem exit_status_truthful_runs :
    let files : FileSystem := { entries := [(⟨[['a']]⟩, .file (Utf8.encode "x\n".toList))] }
    let first := (runIn .standard {} none ["a".toList] files).2
    let second := (runIn .standard {} none (["a", "a", "--report"].map String.toList) files).2
    let third := (runIn .standard {} none (["a", "b/c"].map String.toList) files).2
    (first.ending = .status 1 ∧ first.files = files ∧ first.stdout = []) ∧
    (second.ending = .status 0 ∧ ∃ options, Fulfilled .standard [] options files second) ∧
    (third.ending = .status 2 ∧
      ∃ options problem, Reported .standard [] options files third problem) := by
  intro files first second third
  have misused : first.ending = .status 1 := by decide +kernel
  have done : second.ending = .status 0 := by decide +kernel
  have failed : third.ending = .status 2 := by decide +kernel
  obtain ⟨-, -, untouched, -, -⟩ := exit_status_truthful .standard {} none ["a".toList] files
  obtain ⟨-, -, -, -, fulfilled⟩ :=
    exit_status_truthful .standard {} none (["a", "a", "--report"].map String.toList) files
  obtain ⟨-, -, -, reported, -⟩ :=
    exit_status_truthful .standard {} none (["a", "b/c"].map String.toList) files
  obtain ⟨options, problem, -, named⟩ := reported failed
  exact ⟨⟨misused, untouched misused⟩, ⟨done, _, fulfilled _ rfl done⟩,
    ⟨failed, options, problem, named⟩⟩

/-- The blanks at the end of a message are not printed, and a write that the system stops leaves a
part of the text. -/
theorem exit_status_trimmed_and_cut :
    let arguments := ["a", "b", "--config", "c "].map String.toList
    let missed := (runIn .standard {} none arguments {}).2
    let files : FileSystem := { entries := [(⟨[['a']]⟩, .file (Utf8.encode "x\n".toList))] }
    let stopped := (runIn (.full 1) {} none (["a", "b"].map String.toList) files).2
    (missed.ending = .status 2 ∧ ∃ options problem,
      Request.parse arguments = .ok (.convert options) ∧
      (convert .standard [] options {}).result = .error (.problem problem) ∧
      missed.stdout ≠ problem.kindName ++ ": ".toList ++ problem.message ++ ['\n']) ∧
    stopped.ending = .status 2 ∧
      stopped.files.get? ⟨[['b']]⟩ = some (.file (Utf8.encode ['x'])) := by
  intro arguments missed files stopped
  refine ⟨⟨by decide +kernel, ⟨⟨.relative, [['a']]⟩, some ⟨.relative, [['b']]⟩,
    some (some ⟨.relative, [['c', ' ']]⟩), false, false⟩,
    .config (.missing ⟨.relative, [['c', ' ']]⟩), rfl, rfl, ?_⟩, ?_, ?_⟩
  · decide +kernel
  · decide +kernel
  · decide +kernel

end CommandLine

end Docblock

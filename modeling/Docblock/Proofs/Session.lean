import Docblock.CommandLine.Run
import Docblock.Platform.Standard

namespace Docblock

/-- The visible ones of some records, each on a line of its own and once. -/
def Record.shown (verbose : Bool) (records : List Record) : Text :=
  (records.filter (Record.visible verbose)).flatMap fun record => record.display ++ ['\n']

theorem Config.load_afresh {platform : Platform} {before : List Text} {path : Path}
    {files : FileSystem}
    (afresh : ∀ text, fileText platform path files = .ok text →
      platform.load before text = platform.load [] text) :
    load platform before path files = load platform [] path files := by
  unfold load
  cases held : fileText platform path files with
  | error failure => rfl
  | ok text =>
      change ofContent _ _ (platform.load before text) = _
      rw [afresh text held]
      rfl

namespace CommandLine

theorem Logger.configure_eq {logger : Logger} (few : logger.sinks ≤ 1) (verbose : Bool) :
    logger.configure verbose = ⟨verbose, 1⟩ := by
  unfold configure
  split
  · rfl
  · rw [show logger.sinks = 1 by omega]

theorem Logger.text_of_one (verbose : Bool) (records : List Record) :
    Logger.text ⟨verbose, 1⟩ records = Record.shown verbose records := by
  simp [Logger.text, Record.shown]

variable {platform : Platform} {process : Process} {debug : Option Text} {arguments : List Text}
  {files : FileSystem}

/-- The text of the configuration that a run loads, if it loads one. -/
def configText? (platform : Platform) (arguments : List Text) (files : FileSystem) : Option Text :=
  match Request.parse arguments with
  | .ok (.convert options) => options.configText? platform files
  | _ => none

theorem sinks_runIn (few : process.logger.sinks ≤ 1) :
    (runIn platform process debug arguments files).1.logger.sinks ≤ 1 := by
  unfold runIn
  split
  · exact few
  · exact few
  · exact few
  · simp only [Logger.configure_eq few]
    exact Nat.le_refl 1

theorem texts_runIn (platform : Platform) (process : Process) (debug : Option Text)
    (arguments : List Text) (files : FileSystem) :
    (runIn platform process debug arguments files).1.texts =
      process.texts ++ (configText? platform arguments files).toList := by
  rcases parsed : Request.parse arguments with error | _ | _ | options
  all_goals simp [runIn, configText?, parsed]

theorem runIn_logger (few : process.logger.sinks ≤ 1) :
    (runIn platform process debug arguments files).2 =
      (runIn platform { texts := process.texts } debug arguments files).2 := by
  unfold runIn
  split
  · rfl
  · rfl
  · rfl
  · simp only [Logger.configure_eq few]
    rfl

theorem print_stderr (files : FileSystem) (first second : Text) (code : Nat) (text : Text) :
    print platform files second code text =
      { print platform files first code text with stderr := second } := by
  unfold print
  split
  · rfl
  · rfl

theorem conclude_logger (options : Options) (first second : Logger) (outcome : Outcome Report) :
    conclude platform options second outcome =
      { conclude platform options first outcome with stderr := second.text outcome.log } := by
  unfold conclude
  split
  · exact print_stderr _ _ _ _ _
  · exact print_stderr _ _ _ _ _
  · rfl

theorem stderr_runIn (few : process.logger.sinks ≤ 1) {options : Options}
    (parsed : Request.parse arguments = .ok (.convert options)) :
    (runIn platform process debug arguments files).2.stderr =
      Record.shown (options.verbose || debug.any (!·.isEmpty))
        (convert platform process.texts options files).log := by
  simp only [runIn, parsed, Logger.configure_eq few]
  rw [conclude_logger options {}]
  exact Logger.text_of_one _ _

theorem convert_afresh {before : List Text} {options : Options}
    (afresh : ∀ text, options.configText? platform files = some text →
      platform.load before text = platform.load [] text) :
    convert platform before options files = convert platform [] options files := by
  unfold convert
  split
  · rfl
  · rfl
  · rename_i path named
    have same : Config.load platform before path files = Config.load platform [] path files := by
      apply Config.load_afresh
      intro text held
      apply afresh
      simp only [Options.configText?, named, held]
      rfl
    simp only [same]

/-- A run whose configuration is loaded as by a new loader ends as in a process of its own. -/
theorem runIn_afresh (few : process.logger.sinks ≤ 1)
    (afresh : ∀ text, configText? platform arguments files = some text →
      platform.load process.texts text = platform.load [] text) :
    (runIn platform process debug arguments files).2 = run platform debug arguments files := by
  rw [runIn_logger few]
  unfold configText? at afresh
  unfold run runIn
  split
  · rfl
  · rfl
  · rfl
  · rename_i options parsed
    rw [parsed] at afresh
    simp only [convert_afresh afresh]

/-- The processes that runs can find, with the files at that time. -/
inductive Reached (platform : Platform) (debug : Option Text) : Process → FileSystem → Prop
  | start (files : FileSystem) : Reached platform debug {} files
  | next {process : Process} {files : FileSystem} (reached : Reached platform debug process files)
      (arguments : List Text) :
      Reached platform debug (runIn platform process debug arguments files).1
        (runIn platform process debug arguments files).2.files

theorem Reached.sinks (reached : Reached platform debug process files) :
    process.logger.sinks ≤ 1 := by
  induction reached with
  | start files => exact Nat.zero_le 1
  | next reached arguments induction => exact sinks_runIn induction

/-- Runs one after another, each in a process of its own. -/
def alone (platform : Platform) (debug : Option Text) : List (List Text) → FileSystem → List Ended
  | [], _ => []
  | arguments :: others, files =>
      let ended := run platform debug arguments files
      ended :: alone platform debug others ended.files

/-- Every configuration that some runs load after the given texts, and after those of the runs
before, is loaded as by a new loader. -/
def LoadsAfresh (platform : Platform) (debug : Option Text) :
    List Text → List (List Text) → FileSystem → Prop
  | _, [], _ => True
  | before, arguments :: others, files =>
      (∀ text, configText? platform arguments files = some text →
        platform.load before text = platform.load [] text) ∧
      LoadsAfresh platform debug (before ++ (configText? platform arguments files).toList) others
        (run platform debug arguments files).files

theorem sessionIn_eq_alone (few : process.logger.sinks ≤ 1) (runs : List (List Text))
    (afresh : LoadsAfresh platform debug process.texts runs files) :
    sessionIn platform debug process runs files = alone platform debug runs files := by
  induction runs generalizing process files with
  | nil => rfl
  | cons arguments others induction =>
      obtain ⟨here, later⟩ := afresh
      rw [sessionIn, alone]
      simp only [runIn_afresh few here]
      rw [← texts_runIn platform process debug arguments files] at later
      rw [induction (sinks_runIn few) later]

/-- The logger that a run finds does not show in how it ends, and every record that it lets through
is written once, at the level that the run itself asks for. A run ends as in a process of its own,
unless the loader that it finds loads its configuration otherwise than a new one; so runs in one
process end as in processes of their own where the loader does not do this to any of them. -/
theorem session_isolated (platform : Platform) (debug : Option Text) :
    (∀ process files, Reached platform debug process files → ∀ arguments,
      (runIn platform process debug arguments files).2 =
        (runIn platform { texts := process.texts } debug arguments files).2 ∧
      (∀ options, Request.parse arguments = .ok (.convert options) →
        (runIn platform process debug arguments files).2.stderr =
          Record.shown (options.verbose || debug.any (!·.isEmpty))
            (convert platform process.texts options files).log) ∧
      ((∀ text, configText? platform arguments files = some text →
          platform.load process.texts text = platform.load [] text) →
        (runIn platform process debug arguments files).2 = run platform debug arguments files)) ∧
    ∀ runs files, LoadsAfresh platform debug [] runs files →
      session platform debug runs files = alone platform debug runs files := by
  constructor
  · intro process files reached arguments
    refine ⟨runIn_logger reached.sinks, ?_, runIn_afresh reached.sinks⟩
    intro options parsed
    exact stderr_runIn reached.sinks parsed
  · intro runs files afresh
    exact sessionIn_eq_alone (Nat.zero_le 1) runs afresh

end CommandLine

theorem Yaml.load_of_unnamed {before : List Text}
    (unnamed : ∀ text ∈ before, (read none text).2 = none) (text : Text) :
    load before text = load [] text := by
  have left : before.foldl (fun edition text => (read edition text).2) none = none := by
    induction before with
    | nil => rfl
    | cons first others induction =>
        rw [List.foldl_cons, unnamed first List.mem_cons_self]
        exact induction fun text member => unnamed text (List.mem_cons_of_mem first member)
  simp only [load, left, List.foldl_nil]

namespace CommandLine

/-- A run that shows all records and fails for a value of its configuration, arguments that are
refused, a request for help, a run whose configuration is malformed, one whose configuration speaks
of an edition in a comment, and a run that shows its warnings only. -/
theorem session_isolated_mixed :
    let runs := [["a", "b", "--verbose", "--config", "c"], ["a"], ["--help"],
      ["a", "b", "--config", "d"], ["a", "b", "--config", "e"], ["a", "b"]].map
      (List.map String.toList)
    let files : FileSystem := { entries := [(⟨[['a']]⟩, .file (Utf8.encode
        "\x7b@@\nParameters:\n lost\n\x7d\n".toList)),
      (⟨[['c']]⟩, .file (Utf8.encode "colour: blue\n".toList)),
      (⟨[['d']]⟩, .file (Utf8.encode "tags:\n  summary: &s note\n]\n".toList)),
      (⟨[['e']]⟩, .file (Utf8.encode "# %YAML 1.1\ntags:\n  summary: no\n".toList))] }
    LoadsAfresh .standard none [] runs files ∧
    session .standard none runs files = alone .standard none runs files ∧
    (session .standard none runs files).map Ended.ending =
      [.status 2, .status 1, .status 0, .status 2, .status 0, .status 0] := by
  intro runs files
  have afresh : LoadsAfresh .standard none [] runs files := by
    refine ⟨?_, ?_, ?_, ?_, ?_, ?_, trivial⟩
    all_goals
      intro text _
      exact Yaml.load_of_unnamed (by decide +kernel) text
  exact ⟨afresh, (session_isolated .standard none).2 runs files afresh, by decide +kernel⟩

/-- The edition that the first configuration names holds for the second one too, in which a word
that stood for itself then stands for a truth value. -/
theorem session_edition_persists :
    let runs := [["a", "b", "--config", "c"], ["a", "b", "--config", "d"]].map
      (List.map String.toList)
    let files : FileSystem := { entries := [(⟨[['a']]⟩, .file (Utf8.encode "x\n".toList)),
      (⟨[['c']]⟩, .file (Utf8.encode "%YAML 1.1\n---\n\x7b\x7d\n".toList)),
      (⟨[['d']]⟩, .file (Utf8.encode "tags:\n  summary: no\n".toList))] }
    session .standard none runs files ≠ alone .standard none runs files ∧
    (session .standard none runs files).map Ended.ending = [.status 0, .status 2] ∧
    (alone .standard none runs files).map Ended.ending = [.status 0, .status 0] := by
  intro runs files
  have together : (session .standard none runs files).map Ended.ending =
      [.status 0, .status 2] := by
    decide +kernel
  have apart : (alone .standard none runs files).map Ended.ending = [.status 0, .status 0] := by
    decide +kernel
  refine ⟨?_, together, apart⟩
  intro same
  rw [same, apart] at together
  revert together
  decide

end CommandLine

end Docblock

import Docblock.Proofs.Session

namespace Docblock

def Record.sheet (records : List Record) : Text :=
  records.flatMap fun record => record.display ++ ['\n']

theorem Record.shown_true (records : List Record) : shown true records = sheet records := by
  have visible : records.filter (Record.visible true) = records :=
    List.filter_eq_self.mpr fun record member => rfl
  rw [shown, visible, sheet]

theorem Record.shown_false (records : List Record) :
    shown false records = sheet (records.filter fun record => record.level = .warning) := rfl

namespace CommandLine

def asksForAll (arguments : List Text) : Bool :=
  match Request.parse arguments with
  | .ok (.convert options) => options.verbose
  | _ => false

/-- What a run says of its arguments, if it refuses them. -/
def refusal (arguments : List Text) : Text :=
  match Request.parse arguments with
  | .error error => error.text
  | .ok _ => []

/-- The records of a run, whether they are shown or not. -/
def records (platform : Platform) (before : List Text) (arguments : List Text)
    (files : FileSystem) : List Record :=
  match Request.parse arguments with
  | .ok (.convert options) => (convert platform before options files).log
  | _ => []

/-- Processes that differ in nothing but what their loggers let through. -/
structure Process.Alike (quiet loud : Process) : Prop where
  texts : quiet.texts = loud.texts
  quiet : quiet.logger.sinks ≤ 1
  loud : loud.logger.sinks ≤ 1

/-- Ends of a run that differ in nothing but the records on the error stream, of which one has all
and the other the warnings, unless the arguments ask for all of them. -/
structure Ended.Alike (arguments : List Text) (records : List Record) (quiet loud : Ended) :
    Prop where
  ending : quiet.ending = loud.ending
  stdout : quiet.stdout = loud.stdout
  files : quiet.files = loud.files
  loud : loud.stderr = refusal arguments ++ Record.sheet records
  quiet : quiet.stderr = refusal arguments ++ Record.sheet
    (if asksForAll arguments then records else records.filter fun record => record.level = .warning)

variable {platform : Platform} {quiet loud : Process} {arguments : List Text} {files : FileSystem}
  {value : Text}

theorem Ended.Alike.of_silent {ended : Ended}
    (silent : records platform quiet.texts arguments files = [])
    (stderr : ended.stderr = refusal arguments) :
    Ended.Alike arguments (records platform quiet.texts arguments files) ended ended := by
  rw [silent]
  refine ⟨rfl, rfl, rfl, ?_, ?_⟩
  · rw [stderr]
    exact (List.append_nil _).symm
  · rw [stderr, List.filter_nil, ite_self]
    exact (List.append_nil _).symm

theorem alike_convert (alike : quiet.Alike loud) (filled : value ≠ []) {options : Options}
    (parsed : Request.parse arguments = .ok (.convert options)) :
    Ended.Alike arguments (records platform quiet.texts arguments files)
      (runIn platform quiet none arguments files).2
      (runIn platform loud (some value) arguments files).2 := by
  have told : records platform quiet.texts arguments files =
      (convert platform quiet.texts options files).log := by
    rw [records, parsed]
  have accepted : refusal arguments = [] := by rw [refusal, parsed]
  have asked : asksForAll arguments = options.verbose := by rw [asksForAll, parsed]
  have wanted : (some value).any (!·.isEmpty) = true := by simpa using filled
  have seen : (runIn platform quiet none arguments files).2.ending =
        (runIn platform loud (some value) arguments files).2.ending ∧
      (runIn platform quiet none arguments files).2.stdout =
        (runIn platform loud (some value) arguments files).2.stdout ∧
      (runIn platform quiet none arguments files).2.files =
        (runIn platform loud (some value) arguments files).2.files := by
    simp only [runIn, parsed, alike.texts]
    rw [conclude_logger options (quiet.logger.configure _) (loud.logger.configure _)]
    exact ⟨rfl, rfl, rfl⟩
  refine ⟨seen.1, seen.2.1, seen.2.2, ?_, ?_⟩
  · rw [stderr_runIn alike.loud parsed, wanted, Bool.or_true, Record.shown_true, told, accepted,
      alike.texts, List.nil_append]
  · rw [stderr_runIn alike.quiet parsed, told, accepted, asked, Option.any_none, Bool.or_false,
      List.nil_append]
    cases options.verbose with
    | true => exact Record.shown_true _
    | false => exact Record.shown_false _

theorem alike_runIn (alike : quiet.Alike loud) (filled : value ≠ []) :
    Ended.Alike arguments (records platform quiet.texts arguments files)
      (runIn platform quiet none arguments files).2
      (runIn platform loud (some value) arguments files).2 := by
  cases parsed : Request.parse arguments with
  | error error =>
      simp only [runIn, parsed]
      exact .of_silent (by rw [records, parsed]) (by rw [refusal, parsed])
  | ok request =>
      cases request with
      | help =>
          simp only [runIn, parsed]
          exact .of_silent (by rw [records, parsed]) (by rw [refusal, parsed])
      | version =>
          simp only [runIn, parsed]
          exact .of_silent (by rw [records, parsed]) (by rw [refusal, parsed])
      | convert options => exact alike_convert alike filled parsed

theorem Process.alike_runIn (alike : quiet.Alike loud) :
    (runIn platform quiet none arguments files).1.Alike
      (runIn platform loud (some value) arguments files).1 := by
  refine ⟨?_, sinks_runIn alike.quiet, sinks_runIn alike.loud⟩
  unfold runIn
  split
  · exact alike.texts
  · exact alike.texts
  · exact alike.texts
  · simp only [alike.texts]

/-- Two processes after the same runs, of which one has the variable and the other has not, with the
files at that time. -/
inductive Abreast (platform : Platform) (value : Text) : Process → Process → FileSystem → Prop
  | start (files : FileSystem) : Abreast platform value {} {} files
  | next {quiet loud : Process} {files : FileSystem}
      (abreast : Abreast platform value quiet loud files) (arguments : List Text) :
      Abreast platform value (runIn platform quiet none arguments files).1
        (runIn platform loud (some value) arguments files).1
        (runIn platform quiet none arguments files).2.files

theorem Abreast.alike (abreast : Abreast platform value quiet loud files) : quiet.Alike loud := by
  induction abreast with
  | start files => exact ⟨rfl, Nat.zero_le 1, Nat.zero_le 1⟩
  | next abreast arguments induction => exact Process.alike_runIn induction

/-- A variable that asks for all records changes nothing of a run but the records on the error
stream, in a process of its own as well as after any runs in one process. -/
theorem run_alike_of_debug (platform : Platform) (value : Text) (filled : value ≠ []) :
    (∀ arguments files,
      Ended.Alike arguments (records platform [] arguments files)
        (run platform none arguments files) (run platform (some value) arguments files)) ∧
    ∀ quiet loud files, Abreast platform value quiet loud files → ∀ arguments,
      Ended.Alike arguments (records platform quiet.texts arguments files)
        (runIn platform quiet none arguments files).2
      (runIn platform loud (some value) arguments files).2 := by
  constructor
  · intro arguments files
    have abreast : Abreast platform value {} {} files := .start files
    exact alike_runIn abreast.alike filled
  · intro quiet loud files abreast arguments
    exact alike_runIn abreast.alike filled

/-- A text that belongs to no parameter is one of the records of a run, and without the variable the
only one, also after a run that asked for all records by its arguments. -/
theorem run_alike_of_debug_orphan :
    let value := "1".toList
    let arguments := ["a", "b"].map String.toList
    let earlier := ["a", "b", "--verbose"].map String.toList
    let files : FileSystem := { entries := [(⟨[['a']]⟩, .file (Utf8.encode
      "\x7b@@\nParameters:\n lost\n\x7d\n".toList))] }
    let quiet := (runIn .standard {} none earlier files).1
    let loud := (runIn .standard {} (some value) earlier files).1
    let left := (runIn .standard {} none earlier files).2.files
    value ≠ [] ∧
    Ended.Alike arguments (records .standard [] arguments files)
      (run .standard none arguments files) (run .standard (some value) arguments files) ∧
    (records .standard [] arguments files).map Record.level =
      [.debug, .debug, .debug, .debug, .debug, .warning, .debug, .debug] ∧
    Abreast .standard value quiet loud left ∧
    Ended.Alike arguments (records .standard quiet.texts arguments left)
      (runIn .standard quiet none arguments left).2
      (runIn .standard loud (some value) arguments left).2 ∧
    (runIn .standard quiet none arguments left).2.stderr = Record.sheet [.orphan "lost".toList] := by
  intro value arguments earlier files quiet loud left
  have filled : value ≠ [] := by decide
  have abreast : Abreast .standard value quiet loud left := .next (.start files) earlier
  have alike := run_alike_of_debug .standard value filled
  exact ⟨filled, alike.1 arguments files, by decide +kernel, abreast,
    alike.2 quiet loud left abreast arguments, by decide +kernel⟩

end CommandLine

end Docblock

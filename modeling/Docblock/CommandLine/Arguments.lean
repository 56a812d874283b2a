import Docblock.Path
import Docblock.Text.Basic
import Docblock.Text.Digit

/-!
Arguments of the command line: two operands and five options. A long option may be shortened as long
as no other option starts the same way; `--` ends the options.
-/

namespace Docblock.CommandLine

inductive Flag
  | help
  | version
  | config
  | report
  | verbose
deriving DecidableEq, Repr

namespace Flag

def named : List (Text × Flag) :=
  [("-h".toList, .help), ("--help".toList, .help), ("-v".toList, .version),
    ("--version".toList, .version), ("--config".toList, .config), ("--report".toList, .report),
    ("--verbose".toList, .verbose)]

def ofName? (name : Text) : Option Flag :=
  (named.find? (·.1 == name)).map Prod.snd

def title (flag : Flag) : Text :=
  Text.join ['/'] ((named.filter (·.2 == flag)).map Prod.fst)

end Flag

inductive UsageError
  | ambiguous (argument : Text) (candidates : List Text)
  | missingValue (flag : Flag)
  | ignoredValue (flag : Flag) (value : Text)
  | required (names : List Text)
  | unrecognized (arguments : List Text)
deriving DecidableEq, Repr

inductive Word
  | operand (text : Text)
  | separator
  | option (flag : Flag) (name : Text) (value : Option Text)
  | unknown (text : Text)
deriving DecidableEq, Repr

/-- The place of an argument. It is void if nothing but a superfluous separator stands in it. -/
abbrev Slot := Option Path

structure Options where
  source : Path
  destination : Slot
  config : Option Slot := none
  report : Bool := false
  verbose : Bool := false
deriving DecidableEq, Repr

inductive Request
  | help
  | version
  | convert (options : Options)
deriving DecidableEq, Repr

/-- A negative number is an operand. -/
def isNegativeNumber (argument : Text) : Bool :=
  let body := match argument.reverse with
    | '\n' :: rest => rest.reverse
    | _ => argument
  match body with
  | '-' :: number =>
      let whole := number.takeWhile Text.isDigit
      match number.drop whole.length with
      | [] => !whole.isEmpty
      | '.' :: fraction => !fraction.isEmpty && fraction.all Text.isDigit
      | _ => false
  | _ => false

def cutValue (argument : Text) : Text × Option Text :=
  match argument.cut? ['='] with
  | some (name, value) => (name, some value)
  | none => (argument, none)

/-- The options that an argument may mean, when it is not the name of one. A short option may have
its value behind it. -/
def candidates (argument : Text) : List (Text × Flag × Option Text) :=
  match argument with
  | '-' :: '-' :: _ =>
      let (stem, value) := cutValue argument
      (Flag.named.filter (·.1.startsWith stem)).map fun (name, flag) => (name, flag, value)
  | _ =>
      (Flag.named.filter (·.1 == argument.take 2)).map fun (name, flag) =>
        (name, flag, some (argument.drop 2))

def spelledOut? (argument : Text) : Option Word :=
  match Flag.ofName? argument with
  | some flag => some (.option flag argument none)
  | none =>
      match cutValue argument with
      | (name, some value) => (Flag.ofName? name).map fun flag => .option flag name (some value)
      | (_, none) => none

def isDashed (argument : Text) : Bool :=
  argument.head? == some '-' && argument.length > 1

def word (argument : Text) : Except UsageError Word :=
  if !isDashed argument then .ok (.operand argument)
  else
    match spelledOut? argument with
    | some found => .ok found
    | none =>
        match candidates argument with
        | [(name, flag, value)] => .ok (.option flag name value)
        | [] =>
            if isNegativeNumber argument || argument.contains ' ' then .ok (.operand argument)
            else .ok (.unknown argument)
        | several => .error (.ambiguous argument (several.map Prod.fst))

/-- The words of the arguments; behind the separator everything is an operand. -/
def words : List Text → Except UsageError (List Word)
  | [] => .ok []
  | argument :: arguments =>
      if argument = ['-', '-'] then .ok (.separator :: arguments.map .operand)
      else do
        let first ← word argument
        return first :: (← words arguments)

/-- What has been gathered so far. `filled` says that the last word became an operand, and
`separated` that the separator stands in the place of the next one. -/
structure Gathered where
  operands : List Slot := []
  config : Option Slot := none
  report : Bool := false
  verbose : Bool := false
  extras : List Text := []
  filled : Bool := false
  separated : Bool := false
deriving DecidableEq, Repr

/-- The first separator in the place of an argument is dropped, even if nothing else is there. -/
def Slot.ofText (separated : Bool) (argument : Text) : Slot :=
  if argument = ['-', '-'] && !separated then none else some (.ofText argument)

namespace Gathered

def isFull (gathered : Gathered) : Bool :=
  gathered.operands.length ≥ 2

def extra (gathered : Gathered) (argument : Text) : Gathered :=
  { gathered with extras := gathered.extras ++ [argument], filled := false }

def operand (gathered : Gathered) (argument : Text) : Gathered :=
  if gathered.isFull then gathered.extra argument
  else
    { gathered with
      operands := gathered.operands ++ [.ofText gathered.separated argument]
      filled := true
      separated := false }

/-- The separator belongs to the operand before or behind it; without one it is superfluous. -/
def separator (gathered : Gathered) (words : List Word) : Gathered :=
  if gathered.filled then { gathered with filled := false }
  else if !gathered.isFull && !words.isEmpty then { gathered with separated := true }
  else gathered.extra ['-', '-']

/-- The first operand is never void, because a separator in front of it stands in its place. -/
def request (gathered : Gathered) : Except UsageError Request :=
  match gathered.operands with
  | [] => .error (.required ["source".toList, "destination".toList])
  | [_] => .error (.required ["destination".toList])
  | source :: destination :: _ =>
      if gathered.extras.isEmpty then
        .ok (.convert
          { source := source.getD (.ofText [])
            destination
            config := gathered.config
            report := gathered.report
            verbose := gathered.verbose })
      else .error (.unrecognized gathered.extras)

end Gathered

/-- Short options in one argument: every further character must be a short option too. -/
def cluster (flag : Flag) : Text → Except UsageError Unit
  | [] => .ok ()
  | c :: cs =>
      match Flag.ofName? ['-', c] with
      | some next => cluster next cs
      | none => .error (.ignoredValue flag (c :: cs))

/-- A value behind an option that takes none is an error, unless it goes on with short options. -/
def checkValue (flag : Flag) (name : Text) : Option Text → Except UsageError Unit
  | none => .ok ()
  | some [] => .error (.ignoredValue flag [])
  | some value =>
      if name.length = 2 then cluster flag value else .error (.ignoredValue flag value)

def gather (gathered : Gathered) : List Word → Except UsageError Request
  | [] => gathered.request
  | .operand argument :: words => gather (gathered.operand argument) words
  | .separator :: words => gather (gathered.separator words) words
  | .unknown argument :: words => gather (gathered.extra argument) words
  | .option .config _ (some value) :: words =>
      gather { gathered with config := some (.ofText false value), filled := false } words
  | .option .config _ none :: .operand value :: words =>
      gather { gathered with config := some (.ofText false value), filled := false } words
  | .option .config _ none :: _ => .error (.missingValue .config)
  | .option .help name value :: _ => do
      checkValue .help name value
      return .help
  | .option .version name value :: _ => do
      checkValue .version name value
      return .version
  | .option .report name value :: words => do
      checkValue .report name value
      gather { gathered with report := true, filled := false } words
  | .option .verbose name value :: words => do
      checkValue .verbose name value
      gather { gathered with verbose := true, filled := false } words

/-- What the arguments ask for. Their forms are settled before any of them takes effect. -/
def Request.parse (arguments : List Text) : Except UsageError Request := do
  gather {} (← words arguments)

end Docblock.CommandLine

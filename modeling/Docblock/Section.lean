import Docblock.Line
import Docblock.Text.Lower
import Docblock.Yield

/-!
Sections of a documentation block. A block is read text by text: a sentinel closes the section that
is open and starts the next one, and any other text goes to the open section. A section yields its
fragments when it is closed; a parameter section also when the next parameter starts.
-/

namespace Docblock

structure Entry where
  name : Text
  body : List Text
deriving DecidableEq, Repr

/-- The section that is open, with the text it has taken in. -/
inductive Section
  | outside
  | summary (body : List Text)
  | parameters (pending : Option Entry)
  | returns (body : List Text)
deriving DecidableEq, Repr

namespace Entry

def extend (continuation : Continuation) (entry : Entry) (text : Text) : Entry :=
  match continuation with
  | .prepend => { entry with body := text :: entry.body }
  | .append => { entry with body := entry.body ++ [text] }

def fragment (config : Config) (indent : Int) (entry : Entry) : Fragment where
  tag := config.tags.param
  body := Text.join ['\n'] entry.body
  indent := indent
  attr := some (config.tags.paramAttr ++ ['=', '"'] ++ entry.name ++ ['"'])

end Entry

namespace Section

def kind : Section → SectionKind
  | .outside => .outside
  | .summary _ => .summary
  | .parameters _ => .parameters
  | .returns _ => .returns

def start : SectionKind → Section
  | .outside => .outside
  | .summary => .summary []
  | .parameters => .parameters none
  | .returns => .returns []

def summaryFragment (config : Config) (indent : Int) (body : List Text) : Fragment where
  tag := config.tags.summary
  body := Text.join ['\n'] body
  indent := indent

def returnsFragment (config : Config) (indent : Int) (body : List Text) : Fragment where
  tag := config.tags.returns
  body := Text.join ['\n'] body
  indent := indent

/-- The heading of a description, which a summary leaves out. -/
def isHeading (config : Config) (text : Text) : Bool :=
  text.strip.lower == config.sentinels.description.lower

def isNoValue (config : Config) (body : List Text) : Bool :=
  Text.join ['\n'] body == config.sentinels.noValue

def flush (config : Config) (indent : Int) : Option Entry → Yield
  | none => ∅
  | some entry => .emit config (entry.fragment config indent)

def finish (config : Config) (indent : Int) : Section → Yield
  | .outside => ∅
  | .summary body => .emit config (summaryFragment config indent body)
  | .parameters pending => flush config indent pending
  | .returns body =>
      if isNoValue config body then { log := [.noValue], skippedReturns := 1 }
      else .emit config (returnsFragment config indent body)

def enter (config : Config) (indent : Int) (target : SectionKind) (current : Section) :
    Section × Yield :=
  (start target, current.finish config indent ++ .note (.switched current.kind target))

def orphan (text : Text) : Yield :=
  if text.allBlank then ∅ else .note (.orphan text.strip)

/-- Takes a text into the open section. -/
def take (config : Config) (indent : Int) (text : Text) : Section → Section × Yield
  | .outside => (.outside, ∅)
  | .summary body => (.summary (if isHeading config text then body else body ++ [text]), ∅)
  | .parameters pending =>
      match text.cut? config.sentinels.separator with
      | some (name, description) =>
          (.parameters (some ⟨name.strip, [' ' :: description]⟩), flush config indent pending)
      | none =>
          match pending with
          | none => (.parameters none, orphan text)
          | some entry => (.parameters (some (entry.extend config.continuation text)), ∅)
  | .returns body => (.returns (body ++ [text]), ∅)

/-- The last text of a block goes to a section only if it says something, and never to a return
value. -/
def takesLast (text : Text) (current : Section) : Bool :=
  !text.allBlank && current.kind != .returns

def sentinel? (config : Config) (text : Text) : Option Sentinel.Match :=
  Sentinel.find? config.markers.lineComment text config.sectionSentinels

/-- Reads one text of a block; `last` says that it is the closing one. -/
def read (config : Config) (indent : Int) (last : Bool) (text : Text) (current : Section) :
    Section × Yield :=
  match sentinel? config text with
  | some found =>
      let (entered, closing) := current.enter config indent found.kind
      let rest := found.remainder config.markers.lineComment text
      if rest.isEmpty then (entered, closing)
      else
        let (taken, yield) := entered.take config indent rest
        (taken, closing ++ yield)
  | none =>
      if !last || current.takesLast text then current.take config indent text
      else (current, ∅)

/-- Reads the texts of a block to its end, where the open section is closed. -/
def readAll (config : Config) (indent : Int) : List Text → Section → Section × Yield
  | [], current => current.enter config indent .outside
  | text :: texts, current =>
      let (next, yield) := current.read config indent texts.isEmpty text
      let (final, rest) := readAll config indent texts next
      (final, yield ++ rest)

def beforeClosing (closing text : Text) : Text :=
  let trimmed := text.stripEnd
  if trimmed.endsWith closing then
    Text.stripEnd (trimmed.take (trimmed.length - closing.length))
  else text

/-- The texts of a block: the bodies of its lines, the last one without the closing delimiter. -/
def texts (closing : Text) : List Line → List Text
  | [] => []
  | [line] => [beforeClosing closing line.body]
  | line :: lines => line.body :: texts closing lines

def readBlock (config : Config) (indent : Int) (block : List Line) : Section × Yield :=
  readAll config indent (texts config.markers.closing block) .outside

@[simp] theorem kind_start (target : SectionKind) : (start target).kind = target := by
  cases target <;> rfl

@[simp] theorem finish_outside (config : Config) (indent : Int) :
    finish config indent .outside = ∅ := rfl

@[simp] theorem take_outside (config : Config) (indent : Int) (text : Text) :
    take config indent text .outside = (.outside, ∅) := rfl

theorem kind_take (config : Config) (indent : Int) (text : Text) (current : Section) :
    (current.take config indent text).1.kind = current.kind := by
  cases current with
  | outside => rfl
  | summary body => rfl
  | returns body => rfl
  | parameters pending =>
      simp only [take]
      split
      · rfl
      · split <;> rfl

theorem readAll_fst (config : Config) (indent : Int) (texts : List Text) (current : Section) :
    (current.readAll config indent texts).1 = .outside := by
  induction texts generalizing current with
  | nil => rfl
  | cons text texts ih => exact ih _

theorem readBlock_fst (config : Config) (indent : Int) (block : List Line) :
    (readBlock config indent block).1 = .outside :=
  readAll_fst config indent _ _

end Section

end Docblock

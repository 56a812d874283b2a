import Docblock.Failure

namespace Docblock

abbrev Entries := List (Value × Value)

namespace Entries

def isKnown (names : List Text) : Value → Bool
  | .text key => names.contains key
  | _ => false

def unknown (names : List Text) (entries : Entries) : List Value :=
  (entries.map Prod.fst).filter fun key => !isKnown names key

def texts? : List Value → Option (List Text)
  | [] => some []
  | key :: keys => do
      let text ← key.text?
      let texts ← texts? keys
      return text :: texts

def isNumber : Value → Bool
  | .bool _ => true
  | .int _ => true
  | .float _ => true
  | _ => false

def reach : Value → Int
  | .float (.infinite negative) => if negative then -1 else 1
  | _ => 0

/-- The order of numbers, in which what is not a number has no place. -/
def numberBelow (first second : Value) : Bool :=
  match first, second with
  | .float .nan, _ => false
  | _, .float .nan => false
  | _, _ =>
      match first.fraction?, second.fraction? with
      | some (a, b), some (c, d) => a * d < c * b
      | _, _ => reach first < reach second

def dateBelow (first second : Date) : Bool :=
  first.dayNumber < second.dayNumber

def bytesBelow : Bytes → Bytes → Bool
  | _, [] => false
  | [], _ :: _ => true
  | a :: as, b :: bs => a < b || (a == b && bytesBelow as bs)

/-- Whether a key comes before another; keys of different kinds have no order, nor have moments of
which only one has a zone. -/
def below : Value → Value → Except Defect Bool
  | .bytes first, .bytes second => .ok (bytesBelow first second)
  | .date first, .date second => .ok (dateBelow first second)
  | .date _, .moment _ => .error .dateAndMoment
  | .moment _, .date _ => .error .dateAndMoment
  | .moment first, .moment second =>
      if first.zone.isSome = second.zone.isSome then .ok (first.instant < second.instant)
      else .error .zonesMixed
  | .tuple first, .tuple second => belowItems first second
  | first, second =>
      if isNumber first && isNumber second then .ok (numberBelow first second)
      else
        match first.text?, second.text? with
        | some a, some b => .ok (decide (a < b))
        | _, _ => .error (.keysNotOrdered second.fullTypeName first.fullTypeName)
where
  /-- Tuples are compared where they first differ. -/
  belowItems : List Value → List Value → Except Defect Bool
    | _, [] => .ok false
    | [], _ :: _ => .ok true
    | first :: firsts, second :: seconds =>
        if first.sameKey second then belowItems firsts seconds else below first second

def smaller (first second : Value) : Except Defect Value := do
  return if ← below second first then second else first

def unlistable (keys : List Value) : Defect :=
  match keys with
  | [] => .keyNotText []
  | key :: others =>
      match others.foldlM smaller key with
      | .ok least => .keyNotText least.fullTypeName
      | .error defect => defect

def checkKeys (scope : String) (names : List String) (entries : Entries) : Except Failure Unit :=
  match unknown (names.map String.toList) entries with
  | [] => .ok ()
  | keys =>
      match texts? keys with
      | some texts => .error (.problem (.config
          (.unknownKeys scope.toList (texts.mergeSort Text.precedes))))
      | none => .error (.defect (unlistable keys))

def text (scope name : String) (fallback : Text) (entries : Entries) : Except Failure Text :=
  let place := scope.toList ++ '.' :: name.toList
  match Value.lookup? name.toList entries with
  | none => .ok fallback
  | some found =>
      match found.text? with
      | some [] => .error (.problem (.config (.emptyText place)))
      | some text => .ok text
      | none => .error (.problem (.config (.notText place found)))

def ofMapping? : Value → Option Entries
  | .map entries => some entries
  | .ordered entries => some entries
  | _ => none

/-- A group of options: a mapping, null or absent. -/
def group (name : String) (entries : Entries) : Except Failure Entries :=
  match Value.lookup? name.toList entries with
  | none => .ok []
  | some .null => .ok []
  | some found =>
      match ofMapping? found with
      | some inner => .ok inner
      | none => .error (.problem (.config (.notMapping ("config.".toList ++ name.toList) found)))

/-- A problem whose message shows a value, unless that cannot be shown. -/
def refuse {α : Type} (room : Nat) (error : Value → ConfigError) (found : Value) :
    Except Failure α :=
  match found.showFault? room with
  | none => .error (.problem (.config (error found)))
  | some cause => .error (.defect cause)

end Entries

open Entries

def Markers.keys : List String :=
  ["open", "close", "line_comment", "doc"]

def Sentinels.keys : List String :=
  ["summary", "parameters", "returns", "description", "param_separator", "returns_none"]

def Tags.keys : List String :=
  ["summary", "param", "returns", "param_attr"]

def Config.keys : List String :=
  ["markers", "sentinels", "tags", "param_continuation", "on_unterminated", "newline", "encoding"]

def Markers.ofEntries (entries : Entries) : Except Failure Markers := do
  let base : Markers := {}
  checkKeys "markers" keys entries
  let opening ← text "markers" "open" base.opening entries
  let closing ← text "markers" "close" base.closing entries
  let lineComment ← text "markers" "line_comment" base.lineComment entries
  let doc ← text "markers" "doc" base.doc entries
  return { opening, closing, lineComment, doc }

def Sentinels.ofEntries (entries : Entries) : Except Failure Sentinels := do
  let base : Sentinels := {}
  checkKeys "sentinels" keys entries
  let summary ← text "sentinels" "summary" base.summary entries
  let parameters ← text "sentinels" "parameters" base.parameters entries
  let returns ← text "sentinels" "returns" base.returns entries
  let description ← text "sentinels" "description" base.description entries
  let separator ← text "sentinels" "param_separator" base.separator entries
  let noValue ← text "sentinels" "returns_none" base.noValue entries
  return { summary, parameters, returns, description, separator, noValue }

def Tags.ofEntries (entries : Entries) : Except Failure Tags := do
  let base : Tags := {}
  checkKeys "tags" keys entries
  let summary ← text "tags" "summary" base.summary entries
  let param ← text "tags" "param" base.param entries
  let returns ← text "tags" "returns" base.returns entries
  let paramAttr ← text "tags" "param_attr" base.paramAttr entries
  return { summary, param, returns, paramAttr }

def Continuation.ofText? (text : Text) : Option Continuation :=
  [Continuation.prepend, .append].find? (·.name == text)

def OpenTail.ofText? (text : Text) : Option OpenTail :=
  [OpenTail.error, .flush, .drop].find? (·.name == text)

def Newline.ofText? (text : Text) : Option Newline :=
  [Newline.lf, .crlf, .cr].find? (·.text == text)

/-- A named choice: absent, or one of the names that `choose?` knows. Null is not a name. -/
def Entries.choice {α : Type} (room : Nat) (choose? : Text → Option α)
    (error : Value → ConfigError) (name : String) (fallback : α) (entries : Entries) :
    Except Failure α :=
  match Value.lookup? name.toList entries with
  | none => .ok fallback
  | some (.text text) =>
      match choose? text with
      | some chosen => .ok chosen
      | none => refuse room error (.text text)
  | some found => refuse room error found

def Entries.newline? (room : Nat) (entries : Entries) : Except Failure (Option Newline) :=
  match Value.lookup? "newline".toList entries with
  | none => .ok none
  | some .null => .ok none
  | some (.text text) =>
      match Newline.ofText? text with
      | some chosen => .ok (some chosen)
      | none => refuse room .newline (.text text)
  | some found => refuse room .newline found

def Entries.encoding? (entries : Entries) : Except Failure (Option Text) :=
  match Value.lookup? "encoding".toList entries with
  | none => .ok none
  | some .null => .ok none
  | some found =>
      match found.text? with
      | some text => .ok (some text)
      | none => .error (.problem (.config (.notText "config.encoding".toList found)))

def Config.ofEntries (room : Nat) (entries : Entries) : Except Failure Config := do
  checkKeys "config" keys entries
  let continuation ←
    choice room Continuation.ofText? .continuation "param_continuation" .prepend entries
  let openTail ← choice room OpenTail.ofText? .openTail "on_unterminated" .error entries
  let newline ← newline? room entries
  let encoding ← encoding? entries
  let markers ← Markers.ofEntries (← group "markers" entries)
  let sentinels ← Sentinels.ofEntries (← group "sentinels" entries)
  let tags ← Tags.ofEntries (← group "tags" entries)
  return { markers, sentinels, tags, continuation, openTail, newline, encoding }

/-- The configuration that a value describes. Messages show values up to `room` levels. -/
def Config.ofValue (room : Nat) (value : Value) : Except Failure Config :=
  if value.isVoid then .ok {}
  else
    match ofMapping? value with
    | some entries => Config.ofEntries room entries
    | none => .error (.problem (.config (.notMapping "config".toList value)))

def Entries.ofValue (value : Value) : Except Failure Entries :=
  match value, ofMapping? value with
  | _, some entries => .ok entries
  | .null, none => .error (.defect .absentSection)
  | _, none => .error (.defect (.notSection value.typeName))

end Docblock

import Docblock.Yaml.Scalar
import Docblock.Yaml.Tag

/-!
Tokens of a YAML text. Collections that are written by indentation get tokens of their own where
they start and end. A key is known as one only by the colon behind it, so its token is put in front
of a token that was found before; until then that token is held back. A text is read no further than
the tokens that are asked for.
-/

namespace Docblock.Yaml

inductive Directive
  | edition (edition : Edition)
  | handle (handle lead : Text)
  | other
deriving DecidableEq, Repr

inductive Token
  | directive (content : Directive)
  | documentStart
  | documentEnd
  | sequenceStart
  | mappingStart
  | blockEnd
  | openBracket
  | closeBracket
  | openBrace
  | closeBrace
  | item
  | comma
  | key
  | value
  | alias (name : Text)
  | anchor (name : Text)
  | tag (tag : WrittenTag)
  | scalar (content : Codes) (plain : Bool)
deriving DecidableEq, Repr

/-- A token that may turn out to be a key. Where a key is the only thing that can stand, it is
required to be one. Tokens are numbered from the start of the text. -/
structure KeyCandidate where
  token : Nat
  required : Bool
  index : Nat
  line : Nat
  column : Nat
deriving DecidableEq, Repr

inductive Bracket
  | square
  | curly
deriving DecidableEq, Repr

/-- The state of a scan. `tokens` are those that were found and not yet taken, `brackets` are those
that are open, the innermost first, and `candidates` has one place for each of them and one for the
outside. -/
structure Scan where
  cursor : Cursor
  edition : Option Edition := none
  tokens : List Token := []
  taken : Nat := 0
  finished : Bool := false
  indent : Int := -1
  outer : List Int := []
  brackets : List Bracket := []
  allowKey : Bool := true
  candidates : List (Option KeyCandidate) := [none]
deriving DecidableEq, Repr

namespace Scan

def rules (scan : Scan) : Edition :=
  scan.edition.getD .standard

def inFlow (scan : Scan) : Bool :=
  !scan.brackets.isEmpty

def push (token : Token) (scan : Scan) : Scan :=
  { scan with tokens := scan.tokens ++ [token] }

def nextToken (scan : Scan) : Nat :=
  scan.taken + scan.tokens.length

def insert (number : Nat) (token : Token) (scan : Scan) : Scan :=
  let position := number - scan.taken
  { scan with tokens := scan.tokens.take position ++ token :: scan.tokens.drop position }

def move (cursor : Cursor) (scan : Scan) : Scan :=
  { scan with cursor }

def allow (allowKey : Bool) (scan : Scan) : Scan :=
  { scan with allowKey }

def unwindFrom (column : Int) (scan : Scan) : List Int → Scan
  | [] => { scan with outer := [] }
  | indent :: outer =>
      if scan.indent > column then
        unwindFrom column { scan.push .blockEnd with indent } outer
      else { scan with outer := indent :: outer }

def unwind (column : Int) (scan : Scan) : Scan :=
  if scan.inFlow then scan else scan.unwindFrom column scan.outer

def indentTo (column : Nat) (token : Token) (number : Nat) (scan : Scan) : Scan :=
  if scan.inFlow || scan.indent ≥ column then scan
  else { scan.insert number token with indent := column, outer := scan.indent :: scan.outer }

end Scan

abbrev Scanning := Step Scan

namespace Scanning

open Step

def dropCandidate : Scanning Unit := do
  match (← get).candidates with
  | some candidate :: others => do
      require !candidate.required
      modify fun scan => { scan with candidates := none :: others }
  | _ => return

def saveCandidate : Scanning Unit := do
  if (← get).allowKey then
    dropCandidate
    modify fun scan =>
      let cursor := scan.cursor
      let candidate : KeyCandidate :=
        { token := scan.nextToken, required := !scan.inFlow && scan.indent == cursor.column,
          index := cursor.index, line := cursor.line, column := cursor.column }
      { scan with candidates := some candidate :: scan.candidates.drop 1 }

/-- A key is written on one line and is not longer than 1024 characters. -/
def isStale (cursor : Cursor) (candidate : KeyCandidate) : Bool :=
  candidate.line != cursor.line || cursor.index - candidate.index > 1024

def dropStale : Scanning Unit := do
  let scan : Scan ← get
  let isStale := isStale scan.cursor
  require (scan.candidates.all fun candidate? =>
    candidate?.all fun candidate => !(isStale candidate && candidate.required))
  set { scan with candidates := scan.candidates.map (Option.filter fun candidate => !isStale candidate) }

/-- Past blanks, comments and line breaks; behind a line break a key may stand. -/
def skipGapFrom (fuel : Nat) (scan : Scan) : Scan :=
  match fuel with
  | 0 => scan
  | fuel + 1 =>
      let cursor := scan.cursor.skipWhile fun c => c == ' ' || (scan.inFlow && c == '\t')
      let cursor := cursor.skipComment
      if cursor.atBreak then
        skipGapFrom fuel ((scan.move cursor.next).allow (scan.allowKey || !scan.inFlow))
      else scan.move cursor

def skipGap (scan : Scan) : Scan :=
  let cursor := scan.cursor
  let scan :=
    if cursor.index == 0 && cursor.peek == some '\uFEFF' then scan.move cursor.next else scan
  skipGapFrom (cursor.rest.length + 1) scan

def leaveCollections : Scanning Unit := do
  modify (Scan.unwind (-1))
  dropCandidate
  modify (Scan.allow false)

def documentToken (token : Token) : Scanning Unit := do
  leaveCollections
  modify fun scan => (scan.push token).move (scan.cursor.skip 3)

def directiveNumber (cursor : Cursor) : Except Fault (Nat × Cursor) :=
  let (digits, behind) := cursor.span Char.isDigit
  if digits.isEmpty then .error .illFormed
  else
    match Numeral.whole 10 digits with
    | .ok number => .ok (number.toNat, behind)
    | .error fault => .error (.defect (.numeral fault))

def directiveEdition (cursor : Cursor) : Except Fault (Edition × Cursor) := do
  let (major, behind) ← directiveNumber cursor.skipSpaces
  unless behind.peek == some '.' do .error .illFormed
  let (minor, behind) ← directiveNumber behind.next
  unless isEnd behind.peek do .error .illFormed
  return (⟨major, minor⟩, behind)

def directiveHandle? (edition : Edition) (cursor : Cursor) : Option (Directive × Cursor) := do
  let (handle, behind) ← tagHandle cursor.skipSpaces
  guard (behind.peek == some ' ')
  let (lead, behind) ← tagText edition behind.skipSpaces
  guard (isEnd behind.peek)
  return (.handle handle lead, behind)

def isDirectiveChar (c : Char) : Bool :=
  c.isAlphanum || "-_:.".toList.contains c

def directive : Scanning Unit := do
  leaveCollections
  let (name, behind) := (← get).cursor.next.span isDirectiveChar
  require (!name.isEmpty && isEnd behind.peek)
  let (content, behind) ←
    if name = "YAML".toList then do
      let (edition, behind) ← ofExcept (directiveEdition behind)
      modify fun scan => { scan with edition := some edition }
      pure (Directive.edition edition, behind)
    else if name = "TAG".toList then ofOption (directiveHandle? (← get).rules behind)
    else pure (.other, behind.skipWhile (!isBreak ·))
  let lineEnd := behind.skipSpaces.skipComment
  require (lineEnd.rest.isEmpty || lineEnd.atBreak)
  modify fun scan => (scan.push (.directive content)).move lineEnd.next

def finish : Scanning Unit := do
  leaveCollections
  modify fun scan => { scan with finished := true, candidates := scan.candidates.map fun _ => none }

def openFlow (bracket : Bracket) (token : Token) : Scanning Unit := do
  saveCandidate
  modify fun scan => { (scan.push token).move scan.cursor.next with
    brackets := bracket :: scan.brackets
    candidates := none :: scan.candidates
    allowKey := true }

/-- A closing bracket closes the innermost one of either kind; a stray one closes nothing. -/
def closeFlow (token : Token) : Scanning Unit := do
  dropCandidate
  modify fun scan => { (scan.push token).move scan.cursor.next with
    brackets := scan.brackets.drop 1
    candidates := if scan.inFlow then scan.candidates.drop 1 else scan.candidates
    allowKey := false }

def comma : Scanning Unit := do
  dropCandidate
  modify fun scan => ((scan.push .comma).move scan.cursor.next).allow true

/-- Outside brackets an entry stands only where a key may stand, and may start a collection. -/
def startEntry (token : Token) : Scanning Unit := do
  let scan ← get
  require (scan.inFlow || scan.allowKey)
  set (scan.indentTo scan.cursor.column token scan.nextToken)

def item : Scanning Unit := do
  startEntry .sequenceStart
  dropCandidate
  modify fun scan => ((scan.push .item).move scan.cursor.next).allow true

def explicitKey : Scanning Unit := do
  startEntry .mappingStart
  dropCandidate
  modify fun scan => ((scan.push .key).move scan.cursor.next).allow !scan.inFlow

/-- A colon. The candidate in front of it is a key; without one, the key is empty or was marked. -/
def value : Scanning Unit := do
  match (← get).candidates with
  | some candidate :: others =>
      modify fun scan =>
        let keyed := (scan.insert candidate.token .key).indentTo candidate.column .mappingStart
          candidate.token
        { keyed with candidates := none :: others, allowKey := false }
  | _ => do
      startEntry .mappingStart
      modify fun scan => scan.allow !scan.inFlow
  modify fun scan => (scan.push .value).move scan.cursor.next

def isNameChar (c : Char) : Bool :=
  let n := c.toNat
  !",[]\x7b\x7d".toList.contains c &&
    ((0x21 ≤ n && n ≤ 0x7E) || (0xA0 ≤ n && n ≤ 0xFFFD && c != '\uFEFF') || 0x10000 ≤ n)

def endsName (c? : Option Char) : Bool :=
  isGap c? || c?.any ("?:,[]\x7b\x7d%@`".toList.contains ·)

def named (token : Text → Token) : Scanning Unit := do
  saveCandidate
  let (name, behind) := (← get).cursor.next.span isNameChar
  require (!name.isEmpty && endsName behind.peek)
  modify fun scan => ((scan.push (token name)).move behind).allow false

def tag : Scanning Unit := do
  saveCandidate
  let scan ← get
  let (tag, behind) ← ofOption (writtenTag scan.rules scan.cursor)
  set (((scan.push (.tag tag)).move behind).allow false)

def quotedScalar (quote : Char) : Scanning Unit := do
  saveCandidate
  let scan ← get
  let (content, behind) ← ofExcept (quoted quote scan.cursor)
  set (((scan.push (.scalar content false)).move behind).allow false)

def blockScalar : Scanning Unit := do
  dropCandidate
  let scan ← get
  let (text, behind) ← ofExcept (block scan.indent scan.cursor)
  set (((scan.push (.scalar (Codes.ofText text) false)).move behind).allow true)

def plainScalar : Scanning Unit := do
  saveCandidate
  modify fun scan =>
    let (text, crossed, behind) := plain scan.rules scan.inFlow (scan.indent + 1) scan.cursor
    ((scan.push (.scalar (Codes.ofText text) true)).move behind).allow crossed

def isIndicator (c : Char) : Bool :=
  "-?:,[]\x7b\x7d#&*!|>'\"%@`".toList.contains c

/-- A colon inside brackets marks a value, except in front of a text where only a single pair or a
further value could stand. -/
def marksValue (scan : Scan) (next : Option Char) : Bool :=
  match scan.brackets with
  | [] => isGap next
  | bracket :: _ =>
      scan.rules.isOld || isGap next ||
        (bracket == .curly && scan.tokens.getLast? != some .value)

def startsPlain (scan : Scan) (c : Char) (next : Option Char) : Bool :=
  if isIndicator c then
    (c == '-' && !isGap next) ||
      (c == ':' && scan.inFlow && !scan.rules.isOld && next != some ' ' && next != some '\t') ||
      (!scan.inFlow && (c == '?' || c == ':') && !isGap next)
  else !isGap (some c)

def token (c : Char) : Scanning Unit := do
  let scan ← get
  let next := scan.cursor.peekAt 1
  if c == '%' && scan.cursor.column == 0 then directive
  else if scan.cursor.atSeparator '-' then documentToken .documentStart
  else if scan.cursor.atSeparator '.' then documentToken .documentEnd
  else if c == '[' then openFlow .square .openBracket
  else if c == '{' then openFlow .curly .openBrace
  else if c == ']' then closeFlow .closeBracket
  else if c == '}' then closeFlow .closeBrace
  else if c == ',' then comma
  else if c == '-' && isGap next then item
  else if c == '?' && (scan.inFlow || isGap next) then explicitKey
  else if c == ':' && marksValue scan next then value
  else if c == '*' then named .alias
  else if c == '&' then named .anchor
  else if c == '!' then tag
  else if (c == '|' || c == '>') && !scan.inFlow then blockScalar
  else if c == '\'' || c == '"' then quotedScalar c
  else if startsPlain scan c next then plainScalar
  else refuse

def fetch : Scanning Unit := do
  modify skipGap
  dropStale
  modify fun scan => scan.unwind scan.cursor.column
  match (← get).cursor.peek with
  | none => finish
  | some c => token c

/-- The first token is not there, or may still get a key in front of it. -/
def isWaiting : Scanning Bool := do
  let scan ← get
  if scan.finished then return false
  if scan.tokens.isEmpty then return true
  dropStale
  return (← get).candidates.any fun candidate? => candidate?.any (·.token == scan.taken)

def settle : Nat → Scanning Unit
  | 0 => return
  | fuel + 1 => do
      if ← isWaiting then
        fetch
        settle fuel

def peek : Scanning (Option Token) := do
  settle ((← get).cursor.rest.length + 2)
  return (← get).tokens.head?

def skip : Scanning Unit := do
  settle ((← get).cursor.rest.length + 2)
  modify fun scan => { scan with tokens := scan.tokens.drop 1, taken := scan.taken + 1 }

end Scanning

end Docblock.Yaml

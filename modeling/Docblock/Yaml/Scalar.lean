import Docblock.Text.Codes
import Docblock.Yaml.Cursor
import Docblock.Yaml.Edition
import Docblock.Yaml.Fault

namespace Docblock.Yaml

abbrev Scanned := Text × Cursor

/-- The text that the line breaks of a scalar stand for: the first one and those after it. -/
def folded (first further : Text) : Text :=
  if first ≠ ['\n'] then first ++ further
  else if further.isEmpty then [' ']
  else further

def endsInFlow (edition : Edition) (c : Char) : Bool :=
  c == ',' || c == '[' || c == ']' || c == '{' || c == '}' || (edition.isOld && c == '?')

def plainLength (ends : Char → Bool) : Text → Nat
  | [] => 0
  | c :: cs =>
      if isGap (some c) || (c == ':' && isGap cs.head?) || ends c then 0
      else plainLength ends cs + 1

/-- Line breaks and spaces behind the first line break; none of them counts if a document ends
there. -/
def plainBreaks (fuel : Nat) (breaks : Text) (cursor : Cursor) : Option Text × Cursor :=
  match fuel with
  | 0 => (some breaks, cursor)
  | fuel + 1 =>
      if cursor.atDocumentMarks then (none, cursor)
      else
        let cursor := cursor.skipSpaces
        if cursor.atBreak then plainBreaks fuel (breaks ++ cursor.lineBreak) cursor.next
        else (some breaks, cursor)

/-- The gap after a part of a plain scalar: the text it stands for, which is empty where the scalar
ends, whether it crosses a line, and the place behind it. -/
def plainGap (cursor : Cursor) : Text × Bool × Cursor :=
  let (blanks, after) := cursor.span (· == ' ')
  if after.atBreak then
    let (breaks?, next) := plainBreaks after.rest.length [] after.next
    ((breaks?.map (folded after.lineBreak)).getD [], true, next)
  else (blanks, false, after)

/-- The rest of a plain scalar after `done`, which has its last character first, and a gap: its text,
whether it ends behind a line break, and the place behind it. -/
def plainFrom (fuel : Nat) (ends : Char → Bool) (indent : Option Int) (done gap : Text)
    (crossed : Bool) (cursor : Cursor) : Text × Bool × Cursor :=
  match fuel with
  | 0 => (done.reverse, crossed, cursor)
  | fuel + 1 =>
      let length := plainLength ends cursor.rest
      if cursor.peek == some '#' || length == 0 then (done.reverse, crossed, cursor)
      else
        let read := (gap ++ cursor.rest.take length).reverse ++ done
        let (further, crossing, next) := plainGap (cursor.skip length)
        if further.isEmpty || indent.any fun least => (next.column : Int) < least then
          (read.reverse, crossing, next)
        else plainFrom fuel ends indent read further crossing next

/-- A plain scalar. Outside brackets, every line but the first is at least at column `indent`. -/
def plain (edition : Edition) (inFlow : Bool) (indent : Int) (cursor : Cursor) :
    Text × Bool × Cursor :=
  let ends := fun c => inFlow && endsInFlow edition c
  plainFrom (cursor.rest.length + 1) ends (if inFlow then none else some indent) [] [] false cursor

def escape? (c : Char) : Option Char :=
  match c with
  | '0' => some '\x00'
  | 'a' => some '\x07'
  | 'b' => some '\x08'
  | 't' => some '\t'
  | '\t' => some '\t'
  | 'n' => some '\n'
  | 'v' => some '\x0B'
  | 'f' => some '\x0C'
  | 'r' => some '\r'
  | 'e' => some '\x1B'
  | ' ' => some ' '
  | '"' => some '"'
  | '/' => some '/'
  | '\\' => some '\\'
  | 'N' => some '\u0085'
  | '_' => some '\u00A0'
  | 'L' => some '\u2028'
  | 'P' => some '\u2029'
  | _ => none

def escapeWidth? (c : Char) : Option Nat :=
  match c with
  | 'x' => some 2
  | 'u' => some 4
  | 'U' => some 8
  | _ => none

def checkCode (number : Nat) : Except Fault Nat :=
  if 0x80000000 ≤ number then .error (.defect .codePointSize)
  else if 0x10FFFF < number then .error (.defect .codePointRange)
  else .ok number

def codePoint (width : Nat) (text : Text) : Except Fault Nat :=
  let digits := text.take width
  if digits.length = width && digits.all (Numeral.isDigit 16) then
    checkCode (Numeral.number 16 digits)
  else .error .illFormed

def quotedBreaks (fuel : Nat) (breaks : Text) (cursor : Cursor) : Except Fault Scanned :=
  match fuel with
  | 0 => .error .illFormed
  | fuel + 1 =>
      if cursor.atDocumentMarks then .error .illFormed
      else
        let cursor := cursor.skipWhile fun c => c == ' ' || c == '\t'
        if cursor.atBreak then quotedBreaks fuel (breaks ++ cursor.lineBreak) cursor.next
        else .ok (breaks, cursor)

def quotedGap (cursor : Cursor) : Except Fault Scanned := do
  let (blanks, after) := cursor.span fun c => c == ' ' || c == '\t'
  if after.atBreak then
    let (breaks, next) ← quotedBreaks (after.rest.length + 1) [] after.next
    return (folded after.lineBreak breaks, next)
  else return (blanks, after)

/-- What a backslash and the characters behind it stand for. An escaped line break stands for the
line breaks behind it. -/
def escaped (cursor : Cursor) : Except Fault (Codes × Cursor) :=
  match cursor.peek with
  | none => .error .illFormed
  | some c =>
      if isBreak c then do
        let (breaks, next) ← quotedBreaks (cursor.rest.length + 1) [] cursor.next
        return (Codes.ofText breaks, next)
      else
        match escape? c, escapeWidth? c with
        | some char, _ => .ok ([char.toNat], cursor.next)
        | none, some width => do
            let code ← codePoint width cursor.next.rest
            return ([code], cursor.next.skip width)
        | none, none => .error .illFormed

/-- The rest of a quoted scalar, up to its closing quote. What was read before is in `done`, the last
code point first. -/
def quotedFrom (fuel : Nat) (quote : Char) (done : Codes) (cursor : Cursor) :
    Except Fault (Codes × Cursor) :=
  match fuel, cursor.peek with
  | 0, _ => .error .illFormed
  | _, none => .error .illFormed
  | fuel + 1, some c =>
      if quote == '\'' && c == '\'' && cursor.peekAt 1 == some '\'' then
        quotedFrom fuel quote ('\''.toNat :: done) (cursor.skip 2)
      else if c == quote then .ok (done.reverse, cursor.next)
      else if quote == '"' && c == '\\' then do
        let (codes, next) ← escaped cursor.next
        quotedFrom fuel quote (codes.reverse ++ done) next
      else if isGap (some c) then do
        let (text, next) ← quotedGap cursor
        quotedFrom fuel quote ((Codes.ofText text).reverse ++ done) next
      else quotedFrom fuel quote (c.toNat :: done) cursor.next

def quoted (quote : Char) (cursor : Cursor) : Except Fault (Codes × Cursor) :=
  quotedFrom (cursor.rest.length + 1) quote [] cursor.next

inductive Chomping
  | strip
  | clip
  | keep
deriving DecidableEq, Repr

structure BlockHeader where
  chomping : Chomping := .clip
  increment : Option Nat := none
deriving DecidableEq, Repr

def blockHeader? (indicators : Text) : Option BlockHeader :=
  let digit? := fun (c : Char) =>
    if '1' ≤ c && c ≤ '9' then some (c.toNat - '0'.toNat) else none
  let chomping? := fun (c : Char) =>
    if c == '-' then some Chomping.strip else if c == '+' then some Chomping.keep else none
  match indicators with
  | [] => some {}
  | [c] =>
      match digit? c, chomping? c with
      | some n, _ => some { increment := some n }
      | none, some chomping => some { chomping }
      | none, none => none
  | [c, d] =>
      match digit? c, chomping? d, chomping? c, digit? d with
      | some n, some chomping, _, _ => some ⟨chomping, some n⟩
      | _, _, some chomping, some n => some ⟨chomping, some n⟩
      | _, _, _, _ => none
  | _ => none

/-- The empty lines at the start of a block scalar: their breaks, the column of the first one, and
the deepest column that their spaces and those in front of the next line reach. -/
structure BlockStart where
  breaks : Text := []
  first : Option Nat := none
  deepest : Nat := 0
  cursor : Cursor
deriving DecidableEq, Repr

def blockStart (fuel : Nat) (start : BlockStart) : BlockStart :=
  match fuel with
  | 0 => start
  | fuel + 1 =>
      let (spaces, cursor) := start.cursor.span (· == ' ')
      let deepest := if spaces.isEmpty then start.deepest else max start.deepest cursor.column
      if cursor.atBreak then
        blockStart fuel
          { breaks := start.breaks ++ cursor.lineBreak
            first := some (start.first.getD cursor.column)
            deepest
            cursor := cursor.next }
      else { start with deepest, cursor }

/-- The first of the empty lines may not be shorter than what follows, unless it has no spaces. -/
def BlockStart.isLevel (start : BlockStart) : Bool :=
  start.first.all fun column => column == 0 || start.deepest ≤ column

def skipIndent (indent : Nat) (cursor : Cursor) : Cursor :=
  cursor.skip (min (indent - cursor.column) (cursor.rest.takeWhile (· == ' ')).length)

def blockBreaks (fuel : Nat) (indent : Nat) (breaks : Text) (cursor : Cursor) : Scanned :=
  match fuel with
  | 0 => (breaks, cursor)
  | fuel + 1 =>
      let cursor := skipIndent indent cursor
      if cursor.atBreak then blockBreaks fuel indent (breaks ++ cursor.lineBreak) cursor.next
      else (breaks, cursor)

def startsBlank (cursor : Cursor) : Bool :=
  cursor.peek == some ' ' || cursor.peek == some '\t'

/-- How the lines of a block scalar are read: whether they are folded, from which column on they
stand, and whether the marks of a document end them. -/
structure BlockStyle where
  fold : Bool
  indent : Nat
  marked : Bool
deriving DecidableEq, Repr

/-- A block scalar without its end: the text up to the last line, the line break behind it, and the
empty lines behind that. -/
structure BlockBody where
  text : Text := []
  lineBreak : Text := []
  breaks : Text := []
  cursor : Cursor
deriving DecidableEq, Repr

def BlockBody.value (chomping : Chomping) (body : BlockBody) : Text :=
  match chomping with
  | .strip => body.text
  | .clip => body.text ++ body.lineBreak
  | .keep => body.text ++ body.lineBreak ++ body.breaks

def BlockStyle.goesOn (style : BlockStyle) (cursor : Cursor) : Bool :=
  cursor.column == style.indent && !cursor.rest.isEmpty

def BlockStyle.endsAt (style : BlockStyle) (cursor : Cursor) : Bool :=
  style.marked && (cursor.atSeparator '-' || cursor.atSeparator '.')

def blockLines (fuel : Nat) (style : BlockStyle) (done breaks : Text) (cursor : Cursor) :
    BlockBody :=
  match fuel with
  | 0 => { text := done, breaks, cursor }
  | fuel + 1 =>
      let (line, after) := cursor.span (!isBreak ·)
      let lineBreak := after.lineBreak
      let (further, next) := blockBreaks (after.rest.length + 1) style.indent [] after.next
      let read := done ++ breaks ++ line
      if style.goesOn next && !style.endsAt next then
        let joined : Text :=
          if style.fold && lineBreak == ['\n'] && !startsBlank cursor && !startsBlank next then
            if further.isEmpty then [' '] else []
          else lineBreak
        blockLines fuel style (read ++ joined) further next
      else ⟨read, lineBreak, further, next⟩

def blockOpening (least : Nat) (increment : Option Nat) (cursor : Cursor) :
    Except Fault (Nat × Scanned) :=
  match increment with
  | some increment =>
      let indent := max least 1 + increment - 1
      .ok (indent, blockBreaks (cursor.rest.length + 1) indent [] cursor)
  | none =>
      let start := blockStart (cursor.rest.length + 1) { cursor }
      if start.isLevel then .ok (max least start.deepest, start.breaks, start.cursor)
      else .error .illFormed

/-- A block scalar, from its indicator on; `indent` is the indentation around it. A document that is
one block scalar may stand at the start of the line, and then ends at the marks of a document. -/
def block (indent : Int) (cursor : Cursor) : Except Fault Scanned := do
  let fold := cursor.peek == some '>'
  let (indicators, behind) := cursor.next.span fun c => !isGap (some c)
  let some header := blockHeader? indicators | .error .illFormed
  let lineEnd := behind.skipSpaces.skipComment
  unless lineEnd.rest.isEmpty || lineEnd.atBreak do .error .illFormed
  let least := (indent + 1).toNat
  let (width, breaks, top) ← blockOpening least header.increment lineEnd.next
  let style : BlockStyle := ⟨fold, width, least == 0 && header.increment.isNone⟩
  let body :=
    if style.goesOn top then blockLines (top.rest.length + 1) style [] breaks top
    else { breaks, cursor := top }
  return (body.value header.chomping, body.cursor)

end Docblock.Yaml

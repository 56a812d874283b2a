import Docblock.Yaml.Graph
import Docblock.Yaml.Resolve
import Docblock.Yaml.Token

namespace Docblock.Yaml

/-- What a reading of nodes works on: the scan, the handles of tags, the nodes so far, and those of
them that anchors name, the last anchor first. -/
structure Reading where
  scan : Scan
  handles : List (Text × Text) := standardHandles
  graph : Graph := {}
  anchors : List (Text × NodeId) := []

abbrev Reader := Step Reading

namespace Reader

open Step

def scanning {α : Type} (step : Scanning α) : Reader α :=
  step.within Reading.scan fun scan reading => { reading with scan }

def peek : Reader (Option Token) :=
  scanning Scanning.peek

def skip : Reader Unit :=
  scanning Scanning.skip

def rules : Reader Edition := do
  return (← get).scan.rules

def accept (token : Token) : Reader Bool := do
  if (← peek) = some token then
    skip
    return true
  else return false

def expect (token : Token) : Reader Unit := do
  require (← accept token)

def nextIn (tokens : List Token) : Reader Bool := do
  return (← peek).any tokens.contains

def add (anchor : Option Text) (tag : Tag) (content : Content) : Reader NodeId := do
  let id := (← get).graph.nextId
  modify fun reading =>
    { reading with
      graph := reading.graph.add { tag, content }
      anchors := (anchor.map fun name => (name, id)).toList ++ reading.anchors }
  return id

/-- A scalar. Unless it has a tag, a plain one has the type that its text stands for. -/
def scalar (anchor : Option Text) (tag : Option Tag) (content : Codes) (plain : Bool) :
    Reader NodeId := do
  let tag ←
    match tag with
    | some tag => pure tag
    | none => if plain then ofExcept (implicitTag (← rules) content.joined) else pure .text
  add anchor tag (.scalar content)

def emptyScalar : Reader NodeId :=
  scalar none none [] true

def anchored (name : Text) : Reader NodeId := do
  ofOption ((← get).anchors.lookup name)

def appendItem (id item : NodeId) : Reader Unit :=
  modify fun reading =>
    let items := (reading.graph.items? id).getD []
    { reading with graph := reading.graph.modify id fun node =>
        { node with content := .sequence (items ++ [item]) } }

def appendPair (id key value : NodeId) : Reader Unit :=
  modify fun reading =>
    let pairs := (reading.graph.pairs? id).getD []
    { reading with graph := reading.graph.setPairs id (pairs ++ [(key, value)]) }

def anchor? : Reader (Option Text) := do
  match ← peek with
  | some (.anchor name) => do
      skip
      return some name
  | _ => return none

def tag? : Reader (Option WrittenTag) := do
  match ← peek with
  | some (.tag tag) => do
      skip
      return some tag
  | _ => return none

/-- What stands in front of a node. A tag that is written may still leave the type open. -/
structure Properties where
  anchor : Option Text
  tagged : Bool
  tag : Option Tag
deriving DecidableEq, Repr

def properties : Reader Properties := do
  let early ← anchor?
  let written ← tag?
  let anchor ← if early.isNone && written.isSome then anchor? else pure early
  match written with
  | none => return ⟨anchor, false, none⟩
  | some tag => return ⟨anchor, true, ← ofOption (tag.resolve (← get).handles)⟩

mutual

/-- A node. `block` says that it may be written by indentation, and `loose` that it may be a
sequence whose items are not indented. -/
def node : Nat → Bool → Bool → Reader NodeId
  | 0, _, _ => refuse
  | fuel + 1, block, loose => do
      match ← peek with
      | some (.alias name) => do
          skip
          anchored name
      | _ => do
          let properties ← properties
          let anchor := properties.anchor
          let sequence := add anchor (properties.tag.getD .list) (.sequence [])
          let mapping := add anchor (properties.tag.getD .map) (.mapping [])
          match ← peek, block, loose with
          | some (.scalar content plain), _, _ => do
              skip
              scalar anchor properties.tag content (plain || properties.tagged)
          | some .openBracket, _, _ => do
              let id ← sequence
              skip
              flowItems fuel id true
          | some .openBrace, _, _ => do
              let id ← mapping
              skip
              flowEntries fuel id true
          | some .item, _, true => do
              looseItems fuel (← sequence)
          | some .sequenceStart, true, _ => do
              let id ← sequence
              skip
              items fuel id
          | some .mappingStart, true, _ => do
              let id ← mapping
              skip
              entries fuel id
          | _, _, _ => do
              require (anchor.isSome || properties.tagged)
              scalar anchor properties.tag [] true

def nodeUnless : Nat → List Token → Bool → Bool → Reader NodeId
  | 0, _, _, _ => refuse
  | fuel + 1, stops, block, loose => do
      if ← nextIn stops then emptyScalar else node fuel block loose

def items : Nat → NodeId → Reader NodeId
  | 0, _ => refuse
  | fuel + 1, id => do
      if ← accept .item then
        appendItem id (← nodeUnless fuel [.item, .blockEnd] true false)
        items fuel id
      else
        expect .blockEnd
        return id

def looseItems : Nat → NodeId → Reader NodeId
  | 0, _ => refuse
  | fuel + 1, id => do
      if ← accept .item then
        appendItem id (← nodeUnless fuel [.item, .key, .value, .blockEnd] true false)
        looseItems fuel id
      else return id

def entries : Nat → NodeId → Reader NodeId
  | 0, _ => refuse
  | fuel + 1, id => do
      let stops := [Token.key, .value, .blockEnd]
      if ← accept .key then
        let key ← nodeUnless fuel stops true true
        entryValue fuel id key stops
      else if (← rules).isNew && (← nextIn [.value]) then
        let key ← emptyScalar
        entryValue fuel id key stops
      else
        expect .blockEnd
        return id

def entryValue : Nat → NodeId → NodeId → List Token → Reader NodeId
  | 0, _, _, _ => refuse
  | fuel + 1, id, key, stops => do
      let value ← if ← accept .value then nodeUnless fuel stops true true else emptyScalar
      appendPair id key value
      entries fuel id

def flowItems : Nat → NodeId → Bool → Reader NodeId
  | 0, _, _ => refuse
  | fuel + 1, id, first => do
      if ← accept .closeBracket then return id
      else
        unless first do expect .comma
        if ← accept .closeBracket then return id
        else
          appendItem id (← flowItem fuel)
          flowItems fuel id false

def flowItem : Nat → Reader NodeId
  | 0 => refuse
  | fuel + 1 => do
      if (← peek) = some .key then
        let id ← add none .map (.mapping [])
        skip
        let key ← nodeUnless fuel [.value, .comma, .closeBracket] false false
        let value ←
          if ← accept .value then nodeUnless fuel [.comma, .closeBracket] false false
          else emptyScalar
        appendPair id key value
        return id
      else node fuel false false

def flowEntries : Nat → NodeId → Bool → Reader NodeId
  | 0, _, _ => refuse
  | fuel + 1, id, first => do
      if ← accept .closeBrace then return id
      else
        unless first do expect .comma
        if ← accept .key then
          let key ← nodeUnless fuel [.value, .comma, .closeBrace] false false
          flowValue fuel id key
        else if (← rules).isNew && (← nextIn [.value]) then
          let key ← emptyScalar
          flowValue fuel id key
        else if ← accept .closeBrace then return id
        else
          let key ← node fuel false false
          appendPair id key (← emptyScalar)
          flowEntries fuel id false

def flowValue : Nat → NodeId → NodeId → Reader NodeId
  | 0, _, _ => refuse
  | fuel + 1, id, key => do
      let value ←
        if ← accept .value then nodeUnless fuel [.comma, .closeBrace] false false else emptyScalar
      appendPair id key value
      flowEntries fuel id false

end

def directives : Nat → Option Edition → List (Text × Text) →
    Reader (Option Edition × List (Text × Text))
  | 0, _, _ => refuse
  | fuel + 1, edition, handles => do
      match ← peek with
      | some (.directive (.edition named)) => do
          skip
          require (edition.isNone && named.major == 1)
          directives fuel (some named) handles
      | some (.directive (.handle handle lead)) => do
          skip
          require (handles.lookup handle).isNone
          directives fuel edition (handles ++ [(handle, lead)])
      | some (.directive .other) => do
          skip
          directives fuel edition handles
      | _ => return (edition, handles)

def marked (fuel : Nat) : Reader Unit := do
  let (edition, handles) ← directives fuel none []
  if let some edition := edition then
    unless edition.minor == 1 || edition.minor == 2 do
      stop (.editionRefused edition.major edition.minor)
  modify fun reading => { reading with handles := handles ++ standardHandles }
  expect .documentStart

def isDirective : Option Token → Bool
  | some (.directive _) => true
  | _ => false

/-- The content of the document; an empty scalar if it is marked and has none. -/
def document (fuel : Nat) : Reader NodeId := do
  let first ← peek
  if isDirective first || first = some .documentStart then
    marked fuel
    let next ← peek
    if isDirective next || next.isNone || next = some .documentStart || next = some .documentEnd then
      emptyScalar
    else node fuel true false
  else
    modify fun reading => { reading with handles := standardHandles }
    node fuel true false

def endMarks : Nat → Reader Unit
  | 0 => refuse
  | fuel + 1 => do
      if ← accept .documentEnd then endMarks fuel

def endMark : Reader Bool := do
  if ← accept .documentEnd then
    let behind := (← get).scan.cursor.skipSpaces.skipComment
    require ((← peek).isNone || behind.rest.isEmpty || behind.atBreak)
    return true
  else return false

/-- Nothing but the end of the text follows a document. In the old edition further end marks may
stand there. The start of another document is read before it is refused. -/
def ending (fuel : Nat) (ended : Bool) : Reader Unit := do
  unless ended && !(← rules).isOld do endMarks fuel
  match ← peek with
  | none => return
  | next => do
      unless ended && !(← rules).isOld && !isDirective next do marked fuel
      refuse

def root (fuel : Nat) : Reader (Option NodeId) := do
  if (← peek).isNone then return none
  let id ← document fuel
  let ended ← endMark
  ending fuel ended
  return some id

end Reader

end Docblock.Yaml

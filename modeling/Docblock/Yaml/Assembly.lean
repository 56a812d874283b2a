import Docblock.Yaml.Graph
import Docblock.Yaml.Literal

/-!
The values of nodes. A collection is there, empty, as soon as its node is met, and is filled later,
level by level; only what is to be a key is filled at once. So a node may hold itself, and a fault
shows where its level is filled.
-/

namespace Docblock.Yaml

inductive Part
  | scalar (value : Value)
  | collection (id : NodeId)

inductive Collection
  | list (items : List Part)
  | pairs (items : List (Part × Part))
  | set (items : List Value)
  | map (entries : List (Value × Part))
  | ordered (entries : List (Value × Part))

namespace Collection

def shape : Collection → Shape
  | .list _ => .list
  | .pairs _ => .list
  | .set _ => .set
  | .map _ => .map
  | .ordered _ => .ordered

def ofTag? : Tag → Option Collection
  | .list => some (.list [])
  | .pairs => some (.pairs [])
  | .set => some (.set [])
  | .map => some (.map [])
  | .ordered => some (.ordered [])
  | _ => none

end Collection

/-- The state of an assembly: the nodes, the parts that were made of them, the nodes that are being
made, the collections, and those of them that are still to be filled. `eager` says that collections
are filled at once. -/
structure Assembly where
  graph : Graph := {}
  edition : Edition := .standard
  made : List (NodeId × Part) := []
  underway : List NodeId := []
  collections : List (NodeId × Collection) := []
  deferred : List NodeId := []
  eager : Bool := false

namespace Assembly

/-- The value of a part. A collection that comes again inside itself is cut there. -/
def unfold (assembly : Assembly) : Nat → List NodeId → Part → Value
  | _, _, .scalar value => value
  | 0, _, .collection _ => .null
  | fuel + 1, above, .collection id =>
      match assembly.collections.lookup id with
      | none => .null
      | some collection =>
          let inner := assembly.unfold fuel (id :: above)
          if above.contains id then .again collection.shape
          else
            match collection with
            | .list items => .list (items.map inner)
            | .pairs items =>
                .list (items.map fun (first, second) => .tuple [inner first, inner second])
            | .set items => .set items
            | .map entries => .map (entries.map fun (key, part) => (key, inner part))
            | .ordered entries => .ordered (entries.map fun (key, part) => (key, inner part))

def value (assembly : Assembly) (part : Part) : Value :=
  assembly.unfold (assembly.collections.length + 1) [] part

/-- The value of a document. What its entries hold is cut by itself, without regard to the
document. -/
def documentValue (assembly : Assembly) (part : Part) : Value :=
  let entryValues := fun (entries : List (Value × Part)) =>
    entries.map fun (key, part) => (key, assembly.value part)
  match part with
  | .scalar value => value
  | .collection id =>
      match assembly.collections.lookup id with
      | some (.map entries) => .map (entryValues entries)
      | some (.ordered entries) => .ordered (entryValues entries)
      | _ => assembly.value part

def setCollection (id : NodeId) (collection : Collection) (assembly : Assembly) : Assembly :=
  { assembly with
    collections := (id, collection) :: assembly.collections.filter (·.1 != id) }

end Assembly

abbrev Assembling := Step Assembly

namespace Assembling

open Step

def setPairs (id : NodeId) (pairs : Pairs) : Assembling Unit :=
  modify fun assembly => { assembly with graph := assembly.graph.setPairs id pairs }

def settleDefault (id : NodeId) : Assembling Unit :=
  modify fun assembly =>
    { assembly with graph := assembly.graph.modify id fun node => { node with tag := .text } }

mutual

/-- Works the merges of a mapping into it: the pairs that they bring come first. -/
def merge : Nat → NodeId → Assembling Unit
  | 0, _ => refuse
  | fuel + 1, id => do
      let merged ← mergeFrom fuel id 0 []
      unless merged.isEmpty do
        modify fun assembly =>
          { assembly with graph := assembly.graph.modify id fun node =>
              { node with
                content := .mapping (merged ++ (assembly.graph.pairs? id).getD [])
                merged := some merged } }

/-- The pairs that the merges of a mapping bring, from one of its pairs on. Only one merge may bring
any. -/
def mergeFrom : Nat → NodeId → Nat → Pairs → Assembling Pairs
  | 0, _, _, _ => refuse
  | fuel + 1, id, index, merged => do
      let graph := (← get).graph
      let pairs := (graph.pairs? id).getD []
      match pairs[index]? with
      | none => return merged
      | some (key, value) =>
          match graph.tag key with
          | .merge => do
              require merged.isEmpty
              setPairs id (pairs.eraseIdx index)
              let brought ← mergeSource fuel value
              mergeFrom fuel id index (merged ++ brought)
          | .default => do
              settleDefault key
              mergeFrom fuel id (index + 1) merged
          | _ => mergeFrom fuel id (index + 1) merged

/-- The pairs of a mapping, or of a list of mappings, of which the first has the last word. -/
def mergeSource : Nat → NodeId → Assembling Pairs
  | 0, _ => refuse
  | fuel + 1, id => do
      match (← get).graph.content? id with
      | some (.mapping _) => do
          merge fuel id
          return ((← get).graph.pairs? id).getD []
      | some (.sequence items) => do
          let sources ← items.mapM fun item => do
            require ((← get).graph.pairs? item).isSome
            merge fuel item
            return ((← get).graph.pairs? item).getD []
          return sources.reverse.flatten
      | _ => refuse

end

def scalarContent : Nat → NodeId → Assembling Codes
  | 0, _ => refuse
  | fuel + 1, id => do
      let graph := (← get).graph
      match graph.content? id with
      | some (.scalar content) => return content
      | some (.mapping pairs) =>
          match pairs.find? fun pair => graph.tag pair.1 == .default with
          | some (_, value) => scalarContent fuel value
          | none => refuse
      | _ => refuse

def scalar (id : NodeId) : Assembling Value := do
  let assembly ← get
  let tag := assembly.graph.tag id
  let content ←
    match assembly.graph.content? id with
    | some (.scalar content) => pure content
    | _ => do
        require (tag != .timestamp && tag != .unknown)
        scalarContent (assembly.graph.nodes.length + 1) id
  ofExcept (literal assembly.edition tag content)

def hashable (assembly : Assembly) : Part → Except Defect Value
  | .scalar value => .ok value
  | .collection id =>
      let shape := ((assembly.collections.lookup id).map Collection.shape).getD .list
      .error (.notHashable shape.typeName)

/-- A part as a key. A list becomes a tuple of what it holds by then; no other collection is a
key. -/
def key (part : Part) : Assembling (Except Defect Value) := do
  let assembly ← get
  match part with
  | .scalar value => return .ok value
  | .collection id =>
      match assembly.collections.lookup id with
      | some (.list items) => return (items.mapM (hashable assembly)).map .tuple
      | some (.pairs items) =>
          return (items.mapM fun (first, second) => do
            return Value.tuple [← hashable assembly first, ← hashable assembly second]).map .tuple
      | _ => refuse

def setEntry (key : Value) (part : Part) : List (Value × Part) → List (Value × Part)
  | [] => [(key, part)]
  | entry :: entries =>
      if Value.sameKey entry.1 key then (entry.1, part) :: entries
      else entry :: setEntry key part entries

def requireNew (key : Value) (part : Part) (entries : List (Value × Part)) : Assembling Unit := do
  let assembly ← get
  match entries.find? fun entry => Value.sameKey entry.1 key with
  | none => return
  | some (_, held) =>
      let shown := [key, assembly.value part, assembly.value held]
      match shown.findSome? fun value => value.showFault? Value.usualRoom with
      | some cause => stop cause
      | none => refuse

def setCollection (id : NodeId) (collection : Collection) : Assembling Unit :=
  modify (Assembly.setCollection id collection)

def singlePair (id : NodeId) : Assembling (NodeId × NodeId) := do
  match (← get).graph.pairs? id with
  | some [pair] => return pair
  | _ => refuse

mutual

/-- The part that is made of a node, once for all. While a node is being made it stands for null. -/
def make : Nat → Bool → NodeId → Assembling Part
  | 0, _, _ => refuse
  | fuel + 1, asKey, id => do
      let before ← get
      match before.made.lookup id with
      | some part => return part
      | none =>
          if asKey then modify fun assembly => { assembly with eager := true }
          if before.underway.contains id then return .scalar .null
          modify fun assembly => { assembly with underway := id :: assembly.underway }
          let part ← start fuel id
          modify fun assembly =>
            { assembly with
              made := (id, part) :: assembly.made
              underway := assembly.underway.erase id
              eager := if asKey then before.eager else assembly.eager }
          return part

def start : Nat → NodeId → Assembling Part
  | 0, _ => refuse
  | fuel + 1, id => do
      match Collection.ofTag? ((← get).graph.tag id) with
      | none => return .scalar (← scalar id)
      | some empty => do
          setCollection id empty
          if (← get).eager then fill fuel id
          else modify fun assembly => { assembly with deferred := assembly.deferred ++ [id] }
          return .collection id

def fill : Nat → NodeId → Assembling Unit
  | 0, _ => refuse
  | fuel + 1, id => do
      match (← get).collections.lookup id with
      | some (.list _) => do
          let nodes ← ofOption ((← get).graph.items? id)
          setCollection id (.list (← nodes.mapM (make fuel false)))
      | some (.pairs _) => do
          let nodes ← ofOption ((← get).graph.items? id)
          setCollection id (.pairs (← nodes.mapM fun node => do
            let (key, value) ← singlePair node
            let first ← make fuel false key
            return (first, ← make fuel false value)))
      | some (.set _) => do
          setCollection id (.set ((← entries fuel id).map Prod.fst))
      | some (.map _) => do
          setCollection id (.map (← entries fuel id))
      | some (.ordered _) => do
          let nodes ← ofOption ((← get).graph.items? id)
          nodes.forM (orderedEntry fuel id)
      | none => return

/-- The entries of a mapping. Where merges brought pairs, a later one of a key counts. -/
def entries : Nat → NodeId → Assembling (List (Value × Part))
  | 0, _ => refuse
  | fuel + 1, id => do
      let graph := (← get).graph
      require (graph.pairs? id).isSome
      merge (Nat.pow (graph.pairCount + graph.nodes.length + 2) 2) id
      let graph := (← get).graph
      let pairs := (graph.pairs? id).getD []
      let merged := (graph.get? id).bind Node.merged
      (merged.getD [] ++ pairs).foldlM (fun entries (keyNode, valueNode) => do
        let found ← key (← make fuel true keyNode)
        let part ← make fuel false valueNode
        let key ← ofExcept (found.mapError .defect)
        if merged.isNone then requireNew key part entries
        return setEntry key part entries) []

def orderedEntry : Nat → NodeId → NodeId → Assembling Unit
  | 0, _, _ => refuse
  | fuel + 1, id, node => do
      let (keyNode, valueNode) ← singlePair node
      let part ← make fuel false keyNode
      let assembly ← get
      let key ← ofExcept ((hashable assembly part).mapError .defect)
      let entries := match assembly.collections.lookup id with
        | some (.ordered entries) => entries
        | _ => []
      if entries.any fun entry => Value.sameKey entry.1 key then stop .keyRepeated
      let value ← make fuel false valueNode
      setCollection id (.ordered (entries ++ [(key, value)]))

end

def fillDeferred (fuel : Nat) : Nat → Assembling Unit
  | 0 => return
  | rounds + 1 => do
      let deferred := (← get).deferred
      unless deferred.isEmpty do
        modify fun assembly => { assembly with deferred := [] }
        deferred.forM (fill fuel)
        fillDeferred fuel rounds

def document (id : NodeId) : Assembling Value := do
  let size := (← get).graph.nodes.length
  let fuel := 5 * size + 8
  let part ← make fuel false id
  fillDeferred fuel (size + 1)
  return (← get).documentValue part

end Assembling

end Docblock.Yaml

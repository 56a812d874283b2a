import Docblock.Text.Codes
import Docblock.Yaml.Tag

/-!
The nodes of a YAML document. An alias leads back to a node that was there before, so nodes refer to
each other by number and may hold themselves.
-/

namespace Docblock.Yaml

abbrev NodeId := Nat

abbrev Pairs := List (NodeId × NodeId)

inductive Content
  | scalar (content : Codes)
  | sequence (items : List NodeId)
  | mapping (pairs : Pairs)
deriving DecidableEq, Repr

/-- A node. Once merges have been worked into a mapping, `merged` has the pairs that they brought. -/
structure Node where
  tag : Tag
  content : Content
  merged : Option Pairs := none
deriving DecidableEq, Repr

structure Graph where
  nodes : List Node := []
deriving DecidableEq, Repr

namespace Graph

def get? (graph : Graph) (id : NodeId) : Option Node :=
  graph.nodes[id]?

def nextId (graph : Graph) : NodeId :=
  graph.nodes.length

def add (node : Node) (graph : Graph) : Graph :=
  ⟨graph.nodes ++ [node]⟩

def modify (id : NodeId) (change : Node → Node) (graph : Graph) : Graph :=
  ⟨graph.nodes.modify id change⟩

def tag (graph : Graph) (id : NodeId) : Tag :=
  ((graph.get? id).map Node.tag).getD .unknown

def content? (graph : Graph) (id : NodeId) : Option Content :=
  (graph.get? id).map Node.content

def pairs? (graph : Graph) (id : NodeId) : Option Pairs :=
  match graph.content? id with
  | some (.mapping pairs) => some pairs
  | _ => none

def items? (graph : Graph) (id : NodeId) : Option (List NodeId) :=
  match graph.content? id with
  | some (.sequence items) => some items
  | _ => none

def setPairs (id : NodeId) (pairs : Pairs) (graph : Graph) : Graph :=
  graph.modify id fun node => { node with content := .mapping pairs }

/-- The number of all pairs, which bounds how deep merges can lead. -/
def pairCount (graph : Graph) : Nat :=
  graph.nodes.foldl (fun count node =>
    match node.content with
    | .mapping pairs => count + pairs.length
    | _ => count) 0

end Graph

end Docblock.Yaml

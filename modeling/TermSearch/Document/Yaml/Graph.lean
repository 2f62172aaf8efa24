import TermSearch.Document.Yaml.Error
import TermSearch.Document.Yaml.Tag

/-! The nodes of a YAML document. Nodes have numbers, and a node with parts names them by number, so that
an alias is the node that it stands for, also inside that node. -/
namespace TermSearch.Document.Yaml

abbrev NodeId := Nat

abbrev Entry := NodeId × NodeId

/-- What a node holds. -/
inductive Content
  | scalar (text : String)
  | sequence (items : List NodeId)
  | mapping (entries : List Entry)
  deriving DecidableEq, Repr

structure Node where
  tag : Tag
  content : Content
  deriving DecidableEq, Repr

/-- The nodes of a document in the order of their starts, and their numbers in the order of their ends. A
part that is no alias ends before its whole. -/
structure Graph where
  nodes : Array Node := #[]
  ended : Array NodeId := #[]

namespace Graph

variable (g : Graph) (id : NodeId)

def size : Nat := g.nodes.size

def tag? : Option Tag := g.nodes[id]?.map Node.tag

/-- What a node holds. -/
def content? : Option Content := g.nodes[id]?.map Node.content

/-- Whether the tag of a node is a given one of the format. -/
def hasTag (t : CoreTag) : Bool := g.tag? id = some (.core t)

def isMapping : Bool :=
  match g.content? id with
  | some (.mapping _) => true
  | _ => false

/-- The entries of a mapping; other nodes have none. -/
def entries : List Entry :=
  match g.content? id with
  | some (.mapping entries) => entries
  | _ => []

/-- How many entries the mappings of a document have. -/
def entryCount : Nat := (List.range g.size).foldl (fun n id => n + (g.entries id).length) 0

/-- Adds a node, which has the next number. -/
def start (n : Node) : NodeId × Graph := (g.size, { g with nodes := g.nodes.push n })

/-- Says what a node holds whose parts have been read. -/
def finish (content : Content) : Graph :=
  { nodes := g.nodes.modify id fun n => { n with content }, ended := g.ended.push id }

/-- Changes what a node holds. -/
def withContent (content : Content) : Graph :=
  { g with nodes := g.nodes.modify id fun n => { n with content } }

def withTag (tag : Tag) : Graph := { g with nodes := g.nodes.modify id fun n => { n with tag } }

/-- The text of a node: that of a scalar, or of the value under the default key of a mapping. A chain of
default keys that is longer than a document has nodes does not end. -/
def textWithin : Nat → NodeId → Except Error String
  | 0, _ => .error .endless
  | fuel + 1, id =>
    match g.content? id with
    | some (.scalar text) => .ok text
    | some (.mapping entries) =>
      match entries.find? fun e => g.hasTag e.1 .value with
      | some (_, v) => textWithin fuel v
      | none => .error .wrongShape
    | _ => .error .wrongShape

def text : Except Error String := g.textWithin (g.size + 1) id

@[simp] theorem tag?_withContent (content : Content) (other : NodeId) :
    (g.withContent id content).tag? other = g.tag? other := by
  simp only [tag?, withContent, Array.getElem?_modify]
  split
  · subst_vars; cases g.nodes[other]? <;> rfl
  · rfl

@[simp] theorem content?_withTag (tag : Tag) (other : NodeId) :
    (g.withTag id tag).content? other = g.content? other := by
  simp only [content?, withTag, Array.getElem?_modify]
  split
  · subst_vars; cases g.nodes[other]? <;> rfl
  · rfl

@[simp] theorem size_withContent (content : Content) : (g.withContent id content).size = g.size := by
  simp [size, withContent]

@[simp] theorem size_withTag (tag : Tag) : (g.withTag id tag).size = g.size := by
  simp [size, withTag]

end Graph

end TermSearch.Document.Yaml

import TermSearch.Document.Literal
import TermSearch.Document.Yaml.Construction
import TermSearch.Document.Yaml.NodeReader

/-! Reading YAML texts of one document. The tag of a node says what value it stands for. The key `<<` puts
the entries of other mappings in front of a mapping's own, which count where both have a key. The values
of nodes are put together from those of their parts. A node whose value would hold itself has no finite
value; it is unrolled a few levels deep. -/
namespace TermSearch.Document.Yaml

open TermSearch.Decimal (Binary64)

/-- Values of nodes, where they are known. -/
abbrev Values := Array (Option Value)

namespace Construction

variable (c : Construction)

/-- What tells keys apart that are no numbers though their tag says so: each node is a key of its own, but
the word of the format for such a number is one key everywhere. -/
def ownKey? (id : NodeId) (v : Value) : Option NodeId :=
  match v, c.graph.text id with
  | .real .undefined, .ok text => if isUndefinedWord text then none else some id
  | _, _ => none

/-- The keys of a mapping with the nodes of their values. Where two keys are the same the last value
counts. -/
def keysOf (entries : List (NodeId × Value × NodeId)) : List (Value × NodeId) :=
  let same (a b : Value × Option NodeId) : Bool := Value.sameKey a.1 b.1 && a.2 == b.2
  let found := entries.foldl (fun m (id, k, v) => Assoc.insertBy same (k, c.ownKey? id k) v m) []
  found.map fun (k, v) => (k.1, v)

/-- The value of a node, where the values of those of its parts are known that count. -/
def assembled? (values : Values) (id : NodeId) : Option Value := do
  let value? (id : NodeId) : Option Value := values[id]?.join
  let g := c.graph
  match ← g.content? id with
  | .scalar _ => none
  | .sequence items =>
    if g.hasTag id .seq then return .list (← items.mapM value?)
    else
      return .list (← items.mapM fun item => do
        let (k, v) ← (g.entries item).head?
        return .list [← value? k, ← value? v])
  | .mapping entries =>
    let entries := c.keysOf (← entries.mapM fun (k, v) => do return (k, ← value? k, v))
    if g.hasTag id .set then return .set (entries.map Prod.fst)
    else return .mapping (← entries.mapM fun (k, v) => do return (k, ← value? v))

/-- Puts the values of some nodes together, one after another. -/
def swept (ids : Array NodeId) (values : Values) : Values :=
  ids.foldl (fun values id => values.setIfInBounds id ((c.assembled? values id).or values[id]?.join)) values

/-- The nodes with parts whose values are unknown, in the order of their ends. -/
def unknown (values : Values) : Array NodeId :=
  c.graph.ended.filter fun id => c.reached.getD id false && (values[id]?.join).isNone

/-- Sweeps over the nodes whose values are unknown until no more values get known. -/
def finiteFrom : Nat → Values → Values
  | 0, values => values
  | fuel + 1, values =>
    let unknown := c.unknown values
    let next := c.swept unknown values
    if (c.unknown next).size < unknown.size then finiteFrom fuel next else values

/-- The values of all nodes that have finite ones. -/
def finite : Values := c.finiteFrom (c.graph.size + 1) c.plain

/-- The value of a node without its parts. -/
def bare (id : NodeId) : Value :=
  if c.graph.hasTag id .map then .mapping []
  else if c.graph.hasTag id .set then .set []
  else .list []

/-- How many levels deep nodes are unrolled. -/
def maxLevels : Nat := 8

/-- The values of all nodes, where those that hold themselves are unrolled. -/
def unrolled (values : Values) : Values :=
  let unknown := c.unknown values
  let bare := unknown.foldl (fun values id => values.setIfInBounds id (some (c.bare id))) values
  Nat.repeat (c.swept unknown) maxLevels bare

end Construction

/-- The value of a document, and whether it holds itself. -/
structure Assembly where
  value : Value
  isEndless : Bool

/-- The value of the document with a root. -/
def Construction.assembly (c : Construction) (root : NodeId) : Assembly :=
  let finite := c.finite
  match finite[root]?.join with
  | some v => ⟨v, false⟩
  | none => ⟨((c.unrolled finite)[root]?.join).getD .null, true⟩

/-- The document that a text holds; a text without a document holds null. -/
def readDocument (text : String) : Except Error Assembly := do
  match ← NodeReader.documentOf? (.ofText text.toList) with
  | some (root, g) => return (← g.construction root).assembly root
  | none => return ⟨.null, false⟩

/-- The value of the document that a text holds. -/
def read (text : String) : Except Error Value := do return (← readDocument text).value

example : (read "a: &x [1]\n? !!str 2\n: *x").toOption.map Value.literal =
    some "\x7b'a': [1], '2': [1]\x7d" := by decide +kernel
example : (read "<<: [\x7ba: 1, b: 2\x7d, \x7ba: 3\x7d]\nb: 4\n=: .5").toOption.map Value.literal =
    some "\x7b'a': 1, 'b': 4, '=': 0.5\x7d" := by decide +kernel
example : (read "&a \x7b<<: [\x7bx: 1\x7d, *a], b: 2\x7d").toOption.map Value.literal =
    some "\x7b'b': 2, 'x': 1\x7d" := by decide +kernel
example : (read "&k =: 1\nb: *k").toOption.map Value.literal =
    some "\x7b'=': 1, 'b': '='\x7d" := by decide +kernel
example : (read "!!pairs [p: !!set \x7bx, y\x7d]").toOption.map Value.literal =
    some "[['p', \x7b'x', 'y'\x7d]]" := by decide +kernel
example : (readDocument "&a [*a]").toOption.map Assembly.isEndless = some true := by decide +kernel
example : (match read "a: [!!int x]\nb: !!bool x" with | .error e => some e | .ok _ => none) =
    some (.noTruth "x") := by decide +kernel

end TermSearch.Document.Yaml

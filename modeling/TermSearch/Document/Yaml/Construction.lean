import TermSearch.Document.Yaml.MergedEntries
import TermSearch.Document.Yaml.PlainValue

/-! Finding what the nodes of a document stand for, in the order in which faults come to light. Nodes are
reached level by level. One without parts has its value at once; the parts of one with parts are looked at
when all nodes of its level have been reached, and those of a mapping when its merge keys have been carried
out. -/
namespace TermSearch.Document.Yaml

/-- The state of finding what nodes stand for: the nodes, how many merge keys there are at most, which of
them have been reached, the values of those without parts, and those whose parts wait, the last one first. -/
structure Construction where
  graph : Graph
  mostMerges : Nat
  reached : Array Bool
  plain : Array (Option Value)
  waiting : List NodeId := []

/-- An activity in the course of finding what nodes stand for. -/
abbrev Constructing := StateT Construction (Except Error)

namespace Constructing

/-- Reaches a node. -/
def reach (id : NodeId) : Constructing Unit := do
  let c ← get
  if c.reached.getD id false then return
  if (c.graph.tag? id).any Tag.hasParts then
    set { c with reached := c.reached.setIfInBounds id true, waiting := id :: c.waiting }
  else
    let v ← c.graph.plainValue id
    set { c with
      reached := c.reached.setIfInBounds id true
      plain := c.plain.setIfInBounds id (some v) }

/-- Reaches the key of a mapping. Values with parts are no keys. -/
def reachKey (id : NodeId) : Constructing Unit := do
  reach id
  if ((← get).graph.tag? id).any Tag.hasParts then throw .unhashableKey

/-- Reaches the parts of a mapping. -/
def reachEntries (id : NodeId) : Constructing Unit := do
  let c ← get
  if !c.graph.isMapping id then throw .wrongShape
  let graph ← c.graph.merged c.mostMerges id
  set { c with graph }
  (graph.entries id).forM fun (k, v) => do
    reachKey k
    reach v

/-- Reaches the parts of a pair, which is a mapping of one entry. -/
def reachPair (id : NodeId) : Constructing Unit := do
  match (← get).graph.entries id with
  | [(k, v)] =>
    reach k
    reach v
  | _ => throw .wrongShape

/-- Reaches the items of a sequence. -/
def reachItems (id : NodeId) (reachItem : NodeId → Constructing Unit) : Constructing Unit := do
  match (← get).graph.content? id with
  | some (.sequence items) => items.forM reachItem
  | _ => throw .wrongShape

/-- Reaches the parts of a node. -/
def reachParts (id : NodeId) : Constructing Unit := do
  let g := (← get).graph
  if g.hasTag id .seq then reachItems id reach
  else if g.hasTag id .omap || g.hasTag id .pairs then reachItems id reachPair
  else reachEntries id

/-- Reaches the parts of waiting nodes, level by level. The number bounds the levels. -/
def reachLevels : Nat → Constructing Unit
  | 0 => return ()
  | fuel + 1 => do
    let waiting := (← get).waiting.reverse
    if waiting.isEmpty then return
    modify fun c => { c with waiting := [] }
    waiting.forM reachParts
    reachLevels fuel

end Constructing

/-- What the nodes of a document stand for that are reached from its root. As no node waits twice, there are
no more levels than nodes. -/
def Graph.construction (g : Graph) (root : NodeId) : Except Error Construction := do
  let start : Construction := {
    graph := g
    mostMerges := g.entryCount
    reached := Array.replicate g.size false
    plain := Array.replicate g.size none }
  let (_, c) ← (do Constructing.reach root; Constructing.reachLevels (g.size + 1)).run start
  return c

end TermSearch.Document.Yaml

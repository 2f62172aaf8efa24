import TermSearch.Document.Yaml.Graph

/-! The merge key of mappings. Each entry under it is taken out, and the entries of the mappings that it
names are put in front of a mapping's own: a mapping's, or several mappings' with those of the first one
last. What a mapping has at that time is what counts, also where it names itself. -/
namespace TermSearch.Document.Yaml.Graph

/-- Takes the first entry under a merge key out of a mapping, and answers its value. -/
def takeMerge? (g : Graph) (id : NodeId) : Option (NodeId × Graph) :=
  let entries := g.entries id
  let i := entries.findIdx fun e => g.hasTag e.1 .merge
  entries[i]?.map fun e => (e.2, g.withContent id (.mapping (entries.eraseIdx i)))

/-- Puts entries in front of those of a mapping. A key that was the default key is a text from now on. -/
def settled (g : Graph) (id : NodeId) (front : List Entry) : Graph :=
  let own := g.entries id
  let g := (own.map Prod.fst).foldl (fun g key =>
    if g.hasTag key .value then g.withTag key (.core .str) else g) g
  g.withContent id (.mapping (front ++ own))

/-- A document with the merge keys of a mapping carried out, of which some entries have been found so far.
Each step takes a merge key out, and the number bounds how many there are. -/
def mergedFrom : Nat → List Entry → NodeId → Graph → Except Error Graph
  | 0, _, _, _ => .error .badMerge
  | fuel + 1, found, id, g =>
    match g.takeMerge? id with
    | none => .ok (g.settled id found)
    | some (v, g) =>
      match g.content? v with
      | some (.mapping _) => do
        let g ← mergedFrom fuel [] v g
        mergedFrom fuel (found ++ g.entries v) id g
      | some (.sequence items) => do
        let (more, g) ← items.foldlM (fun (more, g) item => do
          if !g.isMapping item then throw .badMerge
          let g ← mergedFrom fuel [] item g
          return (g.entries item ++ more, g)) (([] : List Entry), g)
        mergedFrom fuel (found ++ more) id g
      | _ => .error .badMerge

/-- A document with the merge keys of a mapping carried out, where there are at most so many merge keys. -/
def merged (g : Graph) (most : Nat) (id : NodeId) : Except Error Graph :=
  mergedFrom (most + 1) [] id g

theorem merged_of_takeMerge?_eq_none {g : Graph} {id : NodeId} (h : g.takeMerge? id = none) (most : Nat) :
    g.merged most id = .ok (g.settled id []) := by
  simp [merged, mergedFrom, h]

end TermSearch.Document.Yaml.Graph

import TermSearch.Document.Yaml.Graph
import TermSearch.Document.Yaml.PlainForm
import TermSearch.Document.Yaml.TokenStream

/-! Reading nodes from tokens. A node may have an anchor, which no other node has, and a tag, whose handle
has to be known. An alias is the node of its anchor, which may be one whose parts are still being read. -/
namespace TermSearch.Document.Yaml

/-- The starts of names that the handles stand for where no directive says otherwise. -/
def usualHandles : List (String × String) := [(ownHandle, "!"), (coreHandle, coreStart)]

/-- The tokens that remain, the fault behind them, the known handles, and the nodes so far with the anchors
that they have. -/
structure Remaining where
  stream : TokenStream
  handles : List (String × String) := usualHandles
  anchors : List (String × NodeId) := []
  graph : Graph := {}

abbrev NodeReader := StateT Remaining (Except Error)

namespace NodeReader

/-- The next token. Where a fault comes next there is none. -/
def next? : NodeReader (Option Token) := do
  let stream := (← get).stream
  match stream.tokens, stream.fault with
  | t :: _, _ => return some t
  | [], none => return none
  | [], some e => throw e

/-- Drops the next token. -/
def drop : NodeReader Unit :=
  modify fun r => { r with stream := { r.stream with tokens := r.stream.tokens.drop 1 } }

/-- Drops the next token if it is a given one, and tells whether it was. -/
def dropIf (t : Token) : NodeReader Bool := do
  if (← next?) = some t then
    drop
    return true
  else return false

/-- Drops the next token, which has to be a given one. -/
def expect (t : Token) : NodeReader Unit := do
  if !(← dropIf t) then throw .unexpectedToken

/-- Whether the next token is one of some tokens. -/
def nextIn (ts : List Token) : NodeReader Bool := do return (← next?).any ts.contains

/-- The node that an alias stands for. -/
def lookUp (name : String) : NodeReader NodeId := do
  match (← get).anchors.lookup name with
  | some id => return id
  | none => throw (.unknownAlias name)

/-- Refuses an anchor that another node has. -/
def checkAnchor (anchor : Option String) : NodeReader Unit := do
  if let some name := anchor then
    if ((← get).anchors.lookup name).isSome then throw (.repeatedAnchor name)

/-- Adds a node, and gives it an anchor. -/
def start (anchor : Option String) (n : Node) : NodeReader NodeId :=
  modifyGet fun r =>
    let (id, graph) := r.graph.start n
    (id, { r with
      graph := graph
      anchors := match anchor with
        | none => r.anchors
        | some name => (name, id) :: r.anchors })

/-- Says what a node holds whose parts have been read. -/
def finish (id : NodeId) (content : Content) : NodeReader NodeId :=
  modifyGet fun r => (id, { r with graph := r.graph.finish id content })

def scalar (anchor : Option String) (tag : Tag) (text : String) : NodeReader NodeId := do
  finish (← start anchor ⟨tag, .scalar text⟩) (.scalar text)

/-- The node of a place where nothing is written. -/
def nothing : NodeReader NodeId := scalar none (.core .null) ""

/-- Reads a sequence whose start has been read. -/
def sequence (anchor : Option String) (tag : Tag) (items : NodeReader (List NodeId)) :
    NodeReader NodeId := do
  let id ← start anchor ⟨tag, .sequence []⟩
  finish id (.sequence (← items))

/-- Reads a mapping whose start has been read. -/
def mapping (anchor : Option String) (tag : Tag) (entries : NodeReader (List Entry)) :
    NodeReader NodeId := do
  let id ← start anchor ⟨tag, .mapping []⟩
  finish id (.mapping (← entries))

/-- Drops the next token if it is an anchor, and answers its name. -/
def anchor? : NodeReader (Option String) := do
  match ← next? with
  | some (.anchor name) =>
    drop
    return some name
  | _ => return none

/-- Drops the next token if it is a tag, and answers it. -/
def tag? : NodeReader (Option WrittenTag) := do
  match ← next? with
  | some (.tag t) =>
    drop
    return some t
  | _ => return none

def fullName (t : WrittenTag) : NodeReader String := do
  match t.handle with
  | none => return t.suffix
  | some handle =>
    match (← get).handles.lookup handle with
    | some start => return start ++ t.suffix
    | none => throw (.unknownHandle handle)

/-- The anchor and the full name of the tag in front of a node, in either order. -/
def properties : NodeReader (Option String × Option String) := do
  match ← anchor? with
  | some name => return (some name, ← (← tag?).mapM fullName)
  | none =>
    let tag ← tag?
    let anchor ← anchor?
    return (anchor, ← tag.mapM fullName)

/-- The tag of a scalar. A plain scalar without a written one has the tag of its form, as has any scalar
with the bare tag. -/
def scalarTag (tag : Option String) (style : Style) (text : String) : Tag :=
  match tag with
  | none => if style = .plain then plainTag text else .core .str
  | some name => if name = bareTag then plainTag text else .ofName name

/-- The tag of a collection; the bare tag says nothing. -/
def collectionTag (usual : CoreTag) (tag : Option String) : Tag :=
  match tag.filter (· != bareTag) with
  | none => .core usual
  | some name => .ofName name

mutual

/-- Reads a node, in the places where a block may stand, and where a sequence may stand without deeper
indentation. The number bounds the depth of reading. -/
def node (block indentless : Bool) : Nat → NodeReader NodeId
  | 0 => throw .unexpectedToken
  | fuel + 1 => do
    match ← next? with
    | some (.alias name) =>
      drop
      lookUp name
    | _ =>
      let (anchor, tag) ← properties
      let next ← next?
      checkAnchor anchor
      content block indentless anchor tag next fuel

/-- Reads what a node holds, behind its anchor and its tag. -/
def content (block indentless : Bool) (anchor tag : Option String) (next : Option Token) :
    Nat → NodeReader NodeId
  | 0 => throw .unexpectedToken
  | fuel + 1 => do
    let sequence := sequence anchor (collectionTag .seq tag)
    let mapping := mapping anchor (collectionTag .map tag)
    match next with
    | some (.scalar style text) =>
      drop
      scalar anchor (scalarTag tag style text) text
    | some .flowSequenceStart =>
      drop
      sequence (flowItems true fuel)
    | some .flowMappingStart =>
      drop
      mapping (flowEntries true fuel)
    | next =>
      if next = some .blockEntry ∧ indentless then sequence (indentlessItems fuel)
      else if next = some .blockSequenceStart ∧ block then
        drop
        sequence (blockItems fuel)
      else if next = some .blockMappingStart ∧ block then
        drop
        mapping (blockEntries fuel)
      else if anchor.isSome || tag.isSome then
        scalar anchor (scalarTag tag .plain "") ""
      else throw .unexpectedToken

/-- Reads a node, or nothing where one of some tokens comes next. -/
def nodeUnless (stops : List Token) (block indentless : Bool) : Nat → NodeReader NodeId
  | 0 => throw .unexpectedToken
  | fuel + 1 => do
    if ← nextIn stops then nothing else node block indentless fuel

def blockItems : Nat → NodeReader (List NodeId)
  | 0 => throw .unexpectedToken
  | fuel + 1 => do
    if ← dropIf .blockEntry then
      let item ← nodeUnless [.blockEntry, .blockEnd] true false fuel
      return item :: (← blockItems fuel)
    else
      expect .blockEnd
      return []

/-- Reads the items of a sequence that is not indented deeper than its key. -/
def indentlessItems : Nat → NodeReader (List NodeId)
  | 0 => throw .unexpectedToken
  | fuel + 1 => do
    if ← dropIf .blockEntry then
      let item ← nodeUnless [.blockEntry, .key, .value, .blockEnd] true false fuel
      return item :: (← indentlessItems fuel)
    else return []

def blockEntries : Nat → NodeReader (List Entry)
  | 0 => throw .unexpectedToken
  | fuel + 1 => do
    let stops : List Token := [.key, .value, .blockEnd]
    if ← dropIf .blockEnd then return []
    else
      expect .key
      let key ← nodeUnless stops true true fuel
      let value ← if ← dropIf .value then nodeUnless stops true true fuel else nothing
      return (key, value) :: (← blockEntries fuel)

/-- Reads the items of a sequence in brackets. An item may be a mapping of one entry. -/
def flowItems (first : Bool) : Nat → NodeReader (List NodeId)
  | 0 => throw .unexpectedToken
  | fuel + 1 => do
    if ← dropIf .flowSequenceEnd then return []
    else
      if !first then expect .flowEntry
      if ← dropIf .key then
        let item ← mapping none (.core .map) do
          let key ← nodeUnless [.value, .flowEntry, .flowSequenceEnd] false false fuel
          let value ←
            if ← dropIf .value then nodeUnless [.flowEntry, .flowSequenceEnd] false false fuel
            else nothing
          return [(key, value)]
        return item :: (← flowItems false fuel)
      else if ← dropIf .flowSequenceEnd then return []
      else
        let item ← node false false fuel
        return item :: (← flowItems false fuel)

/-- Reads the entries of a mapping in braces. -/
def flowEntries (first : Bool) : Nat → NodeReader (List Entry)
  | 0 => throw .unexpectedToken
  | fuel + 1 => do
    if ← dropIf .flowMappingEnd then return []
    else
      if !first then expect .flowEntry
      if ← dropIf .key then
        let key ← nodeUnless [.value, .flowEntry, .flowMappingEnd] false false fuel
        let value ←
          if ← dropIf .value then nodeUnless [.flowEntry, .flowMappingEnd] false false fuel
          else nothing
        return (key, value) :: (← flowEntries false fuel)
      else if ← dropIf .flowMappingEnd then return []
      else
        let key ← node false false fuel
        return (key, ← nothing) :: (← flowEntries false fuel)

end

/-- What the directives in front of a document say. -/
structure Heading where
  hasVersion : Bool := false
  handles : List (String × String) := []

/-- Adds a directive. There is one version, which has to be known, and one directive for each handle. -/
def Heading.add (h : Heading) : Directive → Except Error Heading
  | .version major =>
    if h.hasVersion || major != 1 then .error .badDirective else .ok { h with hasVersion := true }
  | .handle name start =>
    if (h.handles.lookup name).isSome then .error .badDirective
    else .ok { h with handles := (name, start) :: h.handles }
  | .other => .ok h

def directives (h : Heading) : Nat → NodeReader Bool
  | 0 => return false
  | fuel + 1 => do
    match ← next? with
    | some (.directive d) =>
      drop
      let _ ← directives (← h.add d) fuel
      return true
    | _ =>
      modify fun r => { r with handles := h.handles ++ usualHandles }
      return false

/-- Drops marks of the end of a document. -/
def endMarks : Nat → NodeReader Unit
  | 0 => return ()
  | fuel + 1 => do if ← dropIf .documentEnd then endMarks fuel

/-- Reads the root of a document behind the mark of its start. A document that is marked may be empty. -/
def markedRoot (fuel : Nat) : NodeReader NodeId := do
  match ← next? with
  | none => nothing
  | some .documentStart => nothing
  | some .documentEnd => nothing
  | some (.directive _) => nothing
  | _ => node true false fuel

/-- Reads the only document of a stream, if there is one. -/
def document (fuel : Nat) : NodeReader (Option NodeId) := do
  if (← next?).isNone then return none
  let hasDirectives ← directives {} fuel
  let root ←
    if ← dropIf .documentStart then markedRoot fuel
    else if hasDirectives then throw .unexpectedToken
    else node true false fuel
  endMarks fuel
  if (← next?).isNone then return some root
  let _ ← directives {} fuel
  expect .documentStart
  throw .severalDocuments

/-- The root of the only document that some tokens make up, if there is one, and its nodes. Reading never
goes deeper than five steps for each token. -/
def documentOf? (stream : TokenStream) : Except Error (Option (NodeId × Graph)) := do
  let (root, rest) ← (document (5 * stream.tokens.length + 5)).run { stream := stream }
  return root.map fun id => (id, rest.graph)

end NodeReader

end TermSearch.Document.Yaml

import TermSearch.Document.Json.Reader
import TermSearch.Document.Literal
import TermSearch.Record.Basic
import TermSearch.Text.Space

/-! Records from documents. An item has a title, which is kept as it is, and may have texts, a date of
publication and metadata. Texts lose the white space at their ends, and a date without an offset is one
of universal time. How a written date is read is left to a reader of dates. The first faulty item refuses all of
them. -/
namespace TermSearch.Record

open Document (Value)
open Calendar (CivilTime)
open Text (Raw)

/-- Why a reader reads no date: the text is none, or the date goes beyond what is reckoned with, or anything else. -/
inductive DateFailure
  | badValue
  | overflow
  | other (message : String)
  deriving DecidableEq, Repr

/-- A reader of written dates. -/
abbrev DateReader := Raw → Except DateFailure CivilTime

/-- A record as an item gives it. -/
structure Imported where
  id : Option Int
  title : Raw
  excerpt : Raw
  body : Raw
  type : Raw
  password : Raw
  published : Option CivilTime
  metadata : List (Raw × List Raw)
  deriving DecidableEq, Repr

def Imported.toParcel (r : Imported) : Parcel where
  id := r.id
  title := some r.title
  excerpt := some r.excerpt
  body := some r.body
  type := some r.type
  password := some r.password
  published := r.published
  metadata := r.metadata

inductive ItemFault
  | notObject
  | noTitle
  | dateNotText
  | notDate (text : Raw)
  /-- The reader of dates failed in a way that is not expected of it. -/
  | unexpected (message : String)
  | metadataNotObject
  | badValue (key : Raw)
  deriving DecidableEq, Repr

structure ImportError where
  index : Nat
  fault : ItemFault
  deriving DecidableEq, Repr

/-- What an error says. A failure that is not expected of a reader of dates is reported without a place. -/
def ImportError.message (e : ImportError) : String :=
  let place := "records[" ++ toString e.index ++ "]"
  match e.fault with
  | .notObject => place ++ " must be an object"
  | .noTitle => place ++ ".title must be a non-empty string"
  | .dateNotText => place ++ ".published must be a date string"
  | .notDate text => place ++ ".published is not a valid date: " ++ text.quoted
  | .unexpected message => message
  | .metadataNotObject => place ++ ".meta must be an object"
  | .badValue key => place ++ ".meta." ++ key.shown ++ " must be a string or a list"

/-- The text under a key, empty where there is none. -/
def textUnder (key : String) (entries : List (Value × Value)) : Raw :=
  match Value.get? key entries with
  | none => .whole ""
  | some .null => .whole ""
  | some v => v.plain.strip

def checkTitle (s : Raw) : Except ItemFault Raw := if s.strip.isEmpty then .error .noTitle else .ok s

/-- The title of an item: a text with more than white space in it. -/
def titleOf (entries : List (Value × Value)) : Except ItemFault Raw :=
  match Value.get? "title" entries with
  | some (.text s) => checkTitle (.whole s)
  | some (.halved s) => checkTitle (.halved s)
  | _ => .error .noTitle

/-- The time of a written date, of universal time where it has no offset. -/
def dateOf (readDate : DateReader) (s : Raw) : Except ItemFault (Option CivilTime) :=
  match readDate s with
  | .ok t => .ok (some { t with offset := some (t.offset.getD 0) })
  | .error (.other message) => .error (.unexpected message)
  | .error _ => .error (.notDate s)

/-- The date of publication of an item, if it has one. -/
def publishedOf (readDate : DateReader) (entries : List (Value × Value)) :
    Except ItemFault (Option CivilTime) :=
  match Value.get? "published" entries with
  | none => .ok none
  | some .null => .ok none
  | some (.text s) => if s.isEmpty then .ok none else dateOf readDate (.whole s)
  | some (.halved s) => dateOf readDate (.halved s)
  | some _ => .error .dateNotText

/-- The values under a metadata key: a single value as a text, or the items of a list other than null. -/
def valuesUnder (key : Raw) : Value → Except ItemFault (List Raw)
  | .list items => .ok ((items.filter fun v => v.kind != .null).map Value.plain)
  | .null | .bytes _ | .time _ | .set _ | .mapping _ => .error (.badValue key)
  | v => .ok [v.plain]

def metadataUnder (entries : List (Value × Value)) : Except ItemFault (List (Raw × List Raw)) :=
  match Value.get? "meta" entries with
  | none => .ok []
  | some .null => .ok []
  | some (.mapping es) => do
    let pairs ← es.mapM fun e => do
      let key := e.1.plain
      return (key, ← valuesUnder key e.2)
    return Assoc.ofPairs pairs
  | some _ => .error .metadataNotObject

def ofItem (readDate : DateReader) : Value → Except ItemFault Imported
  | .mapping entries => do
    let title ← titleOf entries
    let type := textUnder "type" entries
    let published ← publishedOf readDate entries
    let metadata ← metadataUnder entries
    return {
      id := none
      title := title
      excerpt := textUnder "excerpt" entries
      body := textUnder "body" entries
      type := if type.isEmpty then .whole defaultType else type
      password := textUnder "password" entries
      published := published
      metadata := metadata }
  | _ => .error .notObject

/-- The records of items, the first of which has a given place. -/
def ofItemsFrom (readDate : DateReader) (index : Nat) : List Value → Except ImportError (List Imported)
  | [] => .ok []
  | item :: rest => do
    let r ← (ofItem readDate item).mapError fun fault => ⟨index, fault⟩
    return r :: (← ofItemsFrom readDate (index + 1) rest)

def ofItems (readDate : DateReader) (items : List Value) : Except ImportError (List Imported) :=
  ofItemsFrom readDate 0 items

/-- Why the text of a file holds no records. -/
inductive FileError
  | json (e : Document.Json.Error)
  | notList (path : String)
  | item (e : ImportError)

def FileError.message : FileError → String
  | json e => e.message
  | notList path => path ++ " must contain a list of records"
  | item e => e.message

/-- The items of a document: the document itself, or what it has under `records`. -/
def itemsOf? : Value → Option (List Value)
  | .list items => some items
  | .mapping entries =>
    match Value.get? "records" entries with
    | some (.list items) => some items
    | _ => none
  | _ => none

/-- The records in the text of a file. -/
def ofFileText (readDate : DateReader) (path text : String) : Except FileError (List Imported) := do
  let document ← (Document.Json.read (Text.unifyLineEnds text)).mapError .json
  match itemsOf? document with
  | some items => (ofItems readDate items).mapError .item
  | none => .error (.notList path)

end TermSearch.Record

import TermSearch.Calendar.Iso
import TermSearch.Text.Raw

/-! Content records, drafts of them, and parcels: all that a store may be handed for a record. -/
namespace TermSearch

open Text (Raw)

/-- Metadata: keys with their values, in order. -/
abbrev Metadata := List (String × List String)

structure Record where
  id : Option Int
  title : String
  excerpt : String
  body : String
  type : String
  password : String
  published : Option Calendar.CivilTime
  metadata : Metadata
  deriving DecidableEq, Repr, Inhabited

/-- A record in which a text may be missing. -/
structure Draft where
  id : Option Int
  title : Option String
  excerpt : Option String
  body : Option String
  type : Option String
  password : Option String
  published : Option Calendar.CivilTime
  metadata : Metadata
  deriving DecidableEq, Repr, Inhabited

/-- What a store is handed for a record: a text may be missing, or may have halves of surrogate pairs in it. -/
structure Parcel where
  id : Option Int
  title : Option Raw
  excerpt : Option Raw
  body : Option Raw
  type : Option Raw
  password : Option Raw
  published : Option Calendar.CivilTime
  metadata : List (Raw × List Raw)
  deriving DecidableEq, Repr, Inhabited

/-- The type of a record unless another one is given. -/
def defaultType : String := "post"

namespace Record

/-- Whether a record is protected by a password. -/
def isProtected (r : Record) : Bool := !r.password.isEmpty

def toDraft (r : Record) : Draft where
  id := r.id
  title := some r.title
  excerpt := some r.excerpt
  body := some r.body
  type := some r.type
  password := some r.password
  published := r.published
  metadata := r.metadata

end Record

instance : Coe Record Draft := ⟨Record.toDraft⟩

namespace Draft

def isProtected (d : Draft) : Bool := d.password.any (! ·.isEmpty)

/-- The record of a draft in which no text is missing. -/
def toRecord? (d : Draft) : Option Record := do
  return {
    id := d.id
    title := ← d.title
    excerpt := ← d.excerpt
    body := ← d.body
    type := ← d.type
    password := ← d.password
    published := d.published
    metadata := d.metadata }

@[simp] theorem toRecord?_toDraft (r : Record) : r.toDraft.toRecord? = some r := rfl

def toParcel (d : Draft) : Parcel where
  id := d.id
  title := d.title.map .whole
  excerpt := d.excerpt.map .whole
  body := d.body.map .whole
  type := d.type.map .whole
  password := d.password.map .whole
  published := d.published
  metadata := d.metadata.map fun (key, values) => (.whole key, values.map .whole)

end Draft

end TermSearch

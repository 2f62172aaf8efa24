import TermSearch.Document.Json.Printer
import TermSearch.Document.Json.Reader
import TermSearch.Store.Tables

/-! The tables of a store as a document, so that they can be kept in a file. Every row is a list of its
columns. Reading a snapshot gives back the tables it was made of. -/
namespace TermSearch.Store

open Document (Value)
open Sql (RecordRow MetaRow)

/-- A column with a time that may be missing. -/
def timeDocument : Option Int → Value
  | some seconds => .int seconds
  | none => .null

def timeOfDocument? : Value → Option (Option Int)
  | .int seconds => some (some seconds)
  | .null => some none
  | _ => none

def recordRowDocument (r : RecordRow) : Value :=
  .list [.int r.id, .text r.type, .text r.title, .text r.excerpt, .text r.body, .text r.password,
    timeDocument r.published]

/-- The record in some columns. -/
def recordRowOfDocument? : Value → Option RecordRow
  | .list [.int id, .text type, .text title, .text excerpt, .text body, .text password, time] =>
    (timeOfDocument? time).map fun published =>
      { id, type, title, excerpt, body, password, published }
  | _ => none

def metaRowDocument (m : MetaRow) : Value := .list [.int m.recordId, .text m.key, .text m.value]

/-- The metadata value in some columns. -/
def metaRowOfDocument? : Value → Option MetaRow
  | .list [.int recordId, .text key, .text value] => some { recordId, key, value }
  | _ => none

@[simp] theorem timeOfDocument?_timeDocument (time : Option Int) :
    timeOfDocument? (timeDocument time) = some time := by
  cases time <;> rfl

@[simp] theorem recordRowOfDocument?_recordRowDocument (r : RecordRow) :
    recordRowOfDocument? (recordRowDocument r) = some r := by
  simp [recordRowDocument, recordRowOfDocument?]

@[simp] theorem metaRowOfDocument?_metaRowDocument (m : MetaRow) :
    metaRowOfDocument? (metaRowDocument m) = some m := rfl

/-- Rows that were written one by one are read one by one. -/
theorem mapM_map_of_inverse {α : Type} {write : α → Value} {read : Value → Option α}
    (h : ∀ a, read (write a) = some a) (rows : List α) : (rows.map write).mapM read = some rows := by
  induction rows with
  | nil => rfl
  | cons a rest ih => simp [h, ih]

namespace Tables

def document (t : Tables) : Value :=
  .list [.int t.lastId, .list (t.records.map recordRowDocument),
    .list (t.metadata.map metaRowDocument)]

def ofDocument? : Value → Option Tables
  | .list [.int lastId, .list records, .list metadata] => do
    let records ← records.mapM recordRowOfDocument?
    let metadata ← metadata.mapM metaRowOfDocument?
    return { records, metadata, lastId }
  | _ => none

@[simp] theorem ofDocument?_document (t : Tables) : ofDocument? t.document = some t := by
  simp [document, ofDocument?, mapM_map_of_inverse recordRowOfDocument?_recordRowDocument,
    mapM_map_of_inverse metaRowOfDocument?_metaRowDocument]

def snapshot (t : Tables) : String := Document.Json.compact t.document

/-- The tables in the text of a file; an empty file holds empty tables. -/
def ofSnapshot? (text : String) : Option Tables :=
  if text.isEmpty then some .empty
  else (Document.Json.read text).toOption.bind ofDocument?

example : ofSnapshot? (snapshot ⟨[⟨3, "post", "a", "", "", "", none⟩], [⟨3, "k", "v"⟩], 3⟩) =
    some ⟨[⟨3, "post", "a", "", "", "", none⟩], [⟨3, "k", "v"⟩], 3⟩ := by decide +kernel

end Tables

end TermSearch.Store

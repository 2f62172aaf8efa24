import TermSearch.Document.Literal
import TermSearch.Query.Search
import TermSearch.Text.Space

/-! Hits as they are shown: as numbered text and as documents. -/
namespace TermSearch.Report

open Document (Value)
open Query (Hit)

/-- A hit as it is shown: a record, and its number and its rank as they are written. A part that is missing
is shown as missing. -/
structure Row where
  record : Draft
  id : Value
  rank : Value
  deriving Inhabited

/-- The number of a record as it is written. -/
def idOf (record : Draft) : Value := (record.id.map Value.int).getD .null

def Row.ofHit (hit : Hit) : Row := ⟨hit.record, idOf hit.record, .int hit.rank⟩

/-- The greatest length of an excerpt that is shown whole. -/
def excerptWidth : Nat := 80

/-- A text on one line: its words with single spaces, cut with an ellipsis where they are too long. -/
def shorten (text : String) : String :=
  let flat := " ".intercalate (Text.words text)
  if flat.length ≤ excerptWidth then flat
  else String.ofList (flat.toList.take (excerptWidth - 1)) ++ "…"

/-- What stands for a part of a record that is missing. -/
def missing : String := "None"

def shown (text : Option String) : String := text.getD missing

def textDocument (text : Option String) : Value := (text.map Value.text).getD .null

/-- The lines of one row, the last of them empty. -/
def rowLines (index : Nat) (row : Row) : List String :=
  let r := row.record
  [toString index ++ ". " ++ shown r.title ++ "  [" ++ shown r.type ++ " #" ++ row.id.plainText ++ "]",
   "   Published: " ++ (r.published.map Calendar.CivilTime.dateText).getD "-" ++ "  Hits: " ++
     row.rank.plainText] ++
    (match r.excerpt with
      | some text => if text.isEmpty then [] else ["   " ++ shorten text]
      | none => []) ++ [""]

/-- Rows as text, numbered from one. -/
def rowsText (rows : List Row) : String :=
  if rows.isEmpty then "No matching records.\n"
  else
    let lines := (rows.zipIdx 1).flatMap fun (row, index) => rowLines index row
    Text.stripEnd Text.isSpace ("\n".intercalate lines) ++ "\n"

def metadataDocument (metadata : Metadata) : Value :=
  .mapping (metadata.map fun (key, values) => (.text key, .list (values.map .text)))

def rowDocument (row : Row) : Value :=
  let r := row.record
  .mapping [
    (.text "id", row.id),
    (.text "type", textDocument r.type),
    (.text "title", textDocument r.title),
    (.text "excerpt", textDocument r.excerpt),
    (.text "published", (r.published.map fun t => Value.text t.isoText).getD .null),
    (.text "meta", metadataDocument r.metadata),
    (.text "hits", row.rank)]

end TermSearch.Report

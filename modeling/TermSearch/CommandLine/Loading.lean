import TermSearch.CommandLine.Workspace
import TermSearch.Log.Output
import TermSearch.Record.Import
import TermSearch.Text.Utf8

/-! Loading of a file into a store. Its octets are read as a text, the text as a document, and the items of the
document as records, which are saved in one transaction. A fault on the way ends the loading. -/
namespace TermSearch.CommandLine

open File (Path)
open Record (DateReader)

/-- Why a file is not loaded. -/
inductive LoadFault
  | path (e : PathError)
  | octets (e : Text.DecodingFault)
  | file (e : Record.FileError)
  | store (e : Store.Error)

def LoadFault.message : LoadFault → String
  | path e => e.message
  | octets e => e.message
  | file e => e.message
  | store e => e.message

/-- What loading leaves behind: the connection, what was logged, and the number of saved records or the reason why
there are none. -/
structure LoadReport where
  connection : Store.Connection
  entries : List Log.Entry
  result : Except LoadFault Nat

/-- The records in a file, as it was read or was not. -/
def recordsIn (readDate : DateReader) (p : Path) (content : Except PathError ByteArray) :
    Except LoadFault (List Record.Imported) := do
  let octets ← content.mapError .path
  let text ← (Text.decode octets).mapError .octets
  (Record.ofFileText readDate p.text text).mapError .file

/-- Loads a file into a store. -/
def load (readDate : DateReader) (c : Store.Connection) (p : Path) (content : Except PathError ByteArray) :
    LoadReport :=
  match recordsIn readDate p content with
  | .error e => ⟨c, [], .error e⟩
  | .ok records =>
    let parsed := Log.info ("Parsed " ++ toString records.length ++ " records from " ++ p.text)
    match c.saveParcels (records.map Record.Imported.toParcel) with
    | (c, .error e) => ⟨c, [parsed], .error (.store e)⟩
    | (c, .ok ids) =>
      ⟨c, [parsed, Log.info ("Saved " ++ toString ids.length ++ " records"),
        Log.info ("Store now holds " ++ toString c.tables.count ++ " records")], .ok ids.length⟩

theorem load_of_error {readDate : DateReader} {c : Store.Connection} {p : Path} {content : Except PathError ByteArray}
    {e : LoadFault} (h : recordsIn readDate p content = .error e) :
    load readDate c p content = ⟨c, [], .error e⟩ := by
  rw [load, h]

/-- The records of a file are saved as any batch. -/
theorem load_of_ok {readDate : DateReader} {c : Store.Connection} {p : Path} {content : Except PathError ByteArray}
    {records : List Record.Imported} (h : recordsIn readDate p content = .ok records) :
    let saved := c.saveParcels (records.map Record.Imported.toParcel)
    (load readDate c p content).connection = saved.1 ∧
      (load readDate c p content).result = (saved.2.map List.length).mapError .store := by
  intro saved
  rw [load, h]
  dsimp only
  split
  · rename_i hsave
    rw [show saved = _ from hsave]
    exact ⟨rfl, rfl⟩
  · rename_i hsave
    rw [show saved = _ from hsave]
    exact ⟨rfl, rfl⟩

end TermSearch.CommandLine

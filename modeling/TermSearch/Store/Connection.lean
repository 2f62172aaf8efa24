import TermSearch.Store.Transaction

/-! A connection to a store. Every operation on a closed connection fails and changes nothing. -/
namespace TermSearch.Store

open Query (Hit)

/-- A connection: the name of its database, the tables, and whether it is open. -/
structure Connection where
  path : String
  tables : Tables
  isOpen : Bool
  deriving DecidableEq, Repr, Inhabited

/-- The name of a database that is kept in memory only. -/
def memoryPath : String := ":memory:"

namespace Connection

def openWith (path : String) (tables : Tables) : Connection := ⟨path, tables, true⟩

def close (c : Connection) : Connection := { c with isOpen := false }

/-- Opens the database of a connection again; one in memory is empty then. -/
def reopen (c : Connection) : Connection :=
  openWith c.path (if c.path == memoryPath then .empty else c.tables)

/-- Fails on a connection that was given back. -/
def lease (c : Connection) : Except Error Unit :=
  if c.isOpen then .ok () else .error (.released c.path)

/-- Runs an operation that reads, on an open connection. -/
def reading {α : Type} (c : Connection) (f : Tables → Except Error α) : Except Error α :=
  if c.isOpen then f c.tables else .error .closed

def count (c : Connection) : Except Error Nat := c.reading fun t => .ok t.count

def get? (c : Connection) (id : Int) : Except Error (Option Record) := c.reading fun t => t.get? id

def execute (c : Connection) (q : Sql.Select) : Except Error (List Hit) :=
  c.reading fun t => t.execute q

/-- Saves a batch of parcels in a transaction: all of them, or none where one is refused. -/
def saveParcels (c : Connection) (parcels : List Parcel) : Connection × Except Error (List Int) :=
  if c.isOpen then
    let (tables, ids) := Transaction.finish ((Transaction.start c.tables).addParcels parcels)
    ({ c with tables := tables }, ids)
  else (c, .error .closed)

def save (c : Connection) (drafts : List Draft) : Connection × Except Error (List Int) :=
  c.saveParcels (drafts.map Draft.toParcel)

/-- Saving a batch inserts all of it at once, or changes nothing. -/
theorem save_eq (c : Connection) (drafts : List Draft) : c.save drafts =
    match c.reading fun t => t.insertAll drafts with
    | .ok (tables, ids) => ({ c with tables := tables }, .ok ids)
    | .error e => (c, .error e) := by
  unfold save saveParcels reading
  split
  · rw [← Transaction.addDrafts, Transaction.finish_addDrafts]
    dsimp only
    cases c.tables.insertAll drafts <;> rfl
  · rfl

theorem save_of_error {c c' : Connection} {drafts : List Draft} {e : Error}
    (h : c.save drafts = (c', .error e)) : c' = c := by
  rw [save_eq] at h
  split at h
  · simp at h
  · exact (Prod.mk.inj h).1.symm

end Connection

end TermSearch.Store

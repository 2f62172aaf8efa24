import TermSearch.Query.Search
import TermSearch.Record.Basic
import TermSearch.Sql.Select

/-! The tables of a record store: one row for each record, and one for each metadata value. Identifiers
are given in increasing order and never twice. A batch of drafts is saved as a whole or not at all. -/
namespace TermSearch.Store

open Sql (RecordRow MetaRow ResultRow Select)
open Query (Hit)
open Calendar (CivilTime)

inductive Error
  | closed
  | released (path : String)
  | missingText
  | integerTooLarge
  | noCount
  | farOffset
  | full
  | notEncoded (halves : Text.HalfRun)
  | unreadableTime (e : CivilTime.YearOutOfRange)
  deriving DecidableEq, Repr

def Error.message : Error → String
  | closed => "Cannot operate on a closed database."
  | released path => "Database is closed: " ++ path
  | missingText => "NOT NULL constraint failed"
  | noCount => "datatype mismatch"
  | integerTooLarge => "Python int too large to convert to SQLite INTEGER"
  | farOffset => CivilTime.farOffsetMessage
  | full => "database or disk is full"
  | notEncoded halves => halves.message
  | unreadableTime e => e.message

/-- The tables and the last identifier that was given. -/
structure Tables where
  records : List RecordRow
  metadata : List MetaRow
  lastId : Int
  deriving DecidableEq, Repr, Inhabited

/-- The number of integers of either sign that fit into a column or a parameter. -/
def integerRange : Nat := Nat.pow 2 63

/-- Whether an integer fits into a column or a parameter. -/
def fits (n : Int) : Bool := -(integerRange : Int) ≤ n && n < integerRange

namespace Tables

/-- Tables without a row. -/
def empty : Tables := ⟨[], [], 0⟩

def count (t : Tables) : Nat := t.records.length

/-- The rows of some metadata under an identifier. -/
def metaRows (id : Int) (metadata : Metadata) : List MetaRow :=
  metadata.flatMap fun (key, values) => values.map fun value => ⟨id, key, value⟩

/-- The row of a draft under an identifier, unless a text is missing. -/
def rowOf? (id : Int) (d : Draft) : Option RecordRow := do
  return {
    id := id
    type := ← d.type
    title := ← d.title
    excerpt := ← d.excerpt
    body := ← d.body
    password := ← d.password
    published := d.published.map CivilTime.wholeSeconds }

/-- Adds one draft under the next identifier, as long as there is one. -/
def insert (t : Tables) (d : Draft) : Except Error (Tables × Int) :=
  if !d.published.all CivilTime.hasNearOffset then .error .farOffset
  else if !fits (t.lastId + 1) then .error .full
  else
    match rowOf? (t.lastId + 1) d with
    | some row =>
      .ok (⟨t.records ++ [row], t.metadata ++ metaRows row.id d.metadata, row.id⟩, row.id)
    | none => .error .missingText

theorem rowOf?_columns {id : Int} {d : Draft} {row : RecordRow} (h : rowOf? id d = some row) :
    row.id = id ∧ row.published = d.published.map CivilTime.wholeSeconds := by
  simp only [rowOf?, Option.pure_def, Option.bind_eq_bind, Option.bind_eq_some_iff,
    Option.some.injEq] at h
  obtain ⟨_, _, _, _, _, _, _, _, _, _, rfl⟩ := h
  exact ⟨rfl, rfl⟩

theorem rowOf?_id {id : Int} {d : Draft} {row : RecordRow} (h : rowOf? id d = some row) :
    row.id = id := (rowOf?_columns h).1

theorem insert_eq_ok_iff {t t' : Tables} {d : Draft} {id : Int} :
    t.insert d = .ok (t', id) ↔ ∃ row, rowOf? (t.lastId + 1) d = some row ∧
      (d.published.all CivilTime.hasNearOffset = true ∧ fits (t.lastId + 1) = true) ∧
      t' = ⟨t.records ++ [row], t.metadata ++ metaRows row.id d.metadata, row.id⟩ ∧ id = row.id := by
  unfold insert
  cases d.published.all CivilTime.hasNearOffset with
  | false => simp
  | true =>
    cases fits (t.lastId + 1) with
    | false => simp
    | true => cases rowOf? (t.lastId + 1) d <;> simp [eq_comm]

/-- Adds several drafts, with their identifiers in order. -/
def insertAll (t : Tables) : List Draft → Except Error (Tables × List Int)
  | [] => .ok (t, [])
  | d :: rest => do
    let (t, id) ← t.insert d
    let (t, ids) ← t.insertAll rest
    return (t, id :: ids)

theorem insertAll_cons_eq_ok_iff {t t' : Tables} {d : Draft} {rest : List Draft} {ids : List Int} :
    t.insertAll (d :: rest) = .ok (t', ids) ↔ ∃ middle id more,
      t.insert d = .ok (middle, id) ∧ middle.insertAll rest = .ok (t', more) ∧ ids = id :: more := by
  rw [insertAll]
  cases t.insert d with
  | error e => simp [bind, Except.bind]
  | ok first =>
    cases hrest : first.1.insertAll rest with
    | error e =>
      simp only [bind, Except.bind, hrest, reduceCtorEq, false_iff]
      rintro ⟨middle, id, more, hfirst, hmore, -⟩
      rw [Except.ok.inj hfirst, hmore] at hrest
      cases hrest
    | ok result =>
      simp only [bind, Except.bind, hrest, pure, Except.pure, Except.ok.injEq]
      constructor
      · intro h
        obtain ⟨rfl, rfl⟩ := Prod.mk.inj h
        exact ⟨first.1, first.2, result.2, rfl, hrest, rfl⟩
      · rintro ⟨middle, id, more, rfl, hmore, rfl⟩
        obtain rfl := Except.ok.inj (hrest.symm.trans hmore)
        rfl

theorem insertAll_cons_eq_error_iff {t : Tables} {d : Draft} {rest : List Draft} {e : Error} :
    t.insertAll (d :: rest) = .error e ↔ t.insert d = .error e ∨
      ∃ middle id, t.insert d = .ok (middle, id) ∧ middle.insertAll rest = .error e := by
  rw [insertAll]
  cases t.insert d with
  | error e' => simp [bind, Except.bind]
  | ok first =>
    cases hrest : first.1.insertAll rest <;>
      simp [bind, Except.bind, pure, Except.pure, Prod.ext_iff, hrest]

/-- The metadata of a record, grouped by key in order of first appearance. -/
def metadataOf (t : Tables) (id : Int) : Metadata :=
  (t.metadata.filter fun m => m.recordId == id).foldl
    (fun groups m => Assoc.update m.key [] (· ++ [m.value]) groups) []

def timeOf (row : RecordRow) : Except Error (Option CivilTime) :=
  match row.published with
  | some seconds => (CivilTime.ofSeconds? seconds).mapError .unreadableTime |>.map some
  | none => .ok none

def recordOf (t : Tables) (row : RecordRow) : Except Error Record := do
  let published ← timeOf row
  return {
    id := some row.id
    title := row.title
    excerpt := row.excerpt
    body := row.body
    type := row.type
    password := row.password
    published := published
    metadata := t.metadataOf row.id }

def get? (t : Tables) (id : Int) : Except Error (Option Record) :=
  if !fits id then .error .integerTooLarge
  else
    match t.records.find? fun row => row.id == id with
    | some row => some <$> t.recordOf row
    | none => .ok none

/-- The hit of a row of a result. -/
def hitOf (t : Tables) (r : ResultRow) : Except Error Hit := do
  let record ← t.recordOf r.row
  return ⟨record, r.matchCount⟩

/-- Whether a parameter can be handed to the database: an integer has to fit. -/
def paramFits : Sql.Param → Bool
  | .int n => fits n
  | .text _ | .bool _ | .null => true

def paramsFit (q : Select) : Bool := q.params.all paramFits

/-- The hits of a statement, in order. Left out are the limits of the database: that an operand of `LIKE` has at most
50000 bytes, that a statement has at most 32766 parameters, and that its expressions are nested at most 1000 deep. -/
def execute (t : Tables) (q : Select) : Except Error (List Hit) :=
  if !paramsFit q then .error .integerTooLarge
  else if q.window.any fun w => w.counts?.isNone then .error .noCount
  else (q.run t.metadata t.records).mapM t.hitOf

@[simp] theorem count_empty : empty.count = 0 := rfl

theorem count_insert {t t' : Tables} {d : Draft} {id : Int} (h : t.insert d = .ok (t', id)) :
    t'.count = t.count + 1 ∧ id = t.lastId + 1 ∧ t'.lastId = id := by
  obtain ⟨row, hrow, -, rfl, rfl⟩ := insert_eq_ok_iff.mp h
  simp [count, rowOf?_id hrow]

end Tables

end TermSearch.Store

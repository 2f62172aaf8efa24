import TermSearch.Store.Tables

/-! A batch of parcels is saved statement by statement inside a transaction: one statement adds the row of a record,
and one more adds each of its metadata values. What the statements have added stands in the current tables, also when
a later statement is refused, as one is whose text has halves of surrogate pairs in it. The end of the transaction
decides whether it stays. -/
namespace TermSearch.Store

open Sql (RecordRow MetaRow)
open Calendar (CivilTime)
open Text (Raw)

/-- Tables under a transaction: as they were committed last, and as its statements have left them so far. -/
structure Transaction where
  committed : Tables
  current : Tables
  deriving DecidableEq, Repr

namespace Tables

/-- Tables with one more record, whose identifier is the last one given. -/
def addRow (t : Tables) (row : RecordRow) : Tables :=
  { t with records := t.records ++ [row], lastId := row.id }

/-- Tables with one more metadata value. -/
def addValue (t : Tables) (m : MetaRow) : Tables := { t with metadata := t.metadata ++ [m] }

theorem foldl_addValue (t : Tables) (rows : List MetaRow) :
    rows.foldl addValue t = { t with metadata := t.metadata ++ rows } := by
  induction rows generalizing t with
  | nil => simp
  | cons m rows ih =>
    rw [List.foldl_cons, ih]
    simp [addValue]

end Tables

namespace Transaction

def start (t : Tables) : Transaction := ⟨t, t⟩

/-- A text as the database takes it. -/
def encode (s : Raw) : Except Error String := s.encoded.mapError .notEncoded

/-- The columns of a parcel as the database takes them, one after another. -/
def columnsOf (p : Parcel) : Except Error Draft := do
  let type ← p.type.mapM encode
  let title ← p.title.mapM encode
  let excerpt ← p.excerpt.mapM encode
  let body ← p.body.mapM encode
  let password ← p.password.mapM encode
  return ⟨p.id, title, excerpt, body, type, password, p.published, []⟩

/-- The statement that adds the row of a parcel under the next identifier. A refused row adds nothing. -/
def addRow (tx : Transaction) (p : Parcel) : Transaction × Except Error Int :=
  if !p.published.all CivilTime.hasNearOffset then (tx, .error .farOffset)
  else
    match columnsOf p with
    | .error e => (tx, .error e)
    | .ok d =>
      if !fits (tx.current.lastId + 1) then (tx, .error .full)
      else
        match Tables.rowOf? (tx.current.lastId + 1) d with
        | some row => ({ tx with current := tx.current.addRow row }, .ok row.id)
        | none => (tx, .error .missingText)

/-- The statement that adds a metadata value. -/
def addValue (tx : Transaction) (id : Int) (key value : Raw) : Transaction × Except Error Unit :=
  match encode key, encode value with
  | .ok key, .ok value => ({ tx with current := tx.current.addValue ⟨id, key, value⟩ }, .ok ())
  | .error e, _ => (tx, .error e)
  | _, .error e => (tx, .error e)

/-- Adds metadata values in order up to the first one that is refused. -/
def addValues (tx : Transaction) (id : Int) : List (Raw × Raw) → Transaction × Except Error Unit
  | [] => (tx, .ok ())
  | (key, value) :: rest =>
    match tx.addValue id key value with
    | (tx, .ok ()) => tx.addValues id rest
    | (tx, .error e) => (tx, .error e)

/-- The metadata values of a parcel, each with its key. -/
def valuesOf (metadata : List (Raw × List Raw)) : List (Raw × Raw) :=
  metadata.flatMap fun (key, values) => values.map (key, ·)

/-- Adds the row of a parcel, and then its metadata values one by one. -/
def addParcel (tx : Transaction) (p : Parcel) : Transaction × Except Error Int :=
  match tx.addRow p with
  | (tx, .error e) => (tx, .error e)
  | (tx, .ok id) =>
    match tx.addValues id (valuesOf p.metadata) with
    | (tx, .ok ()) => (tx, .ok id)
    | (tx, .error e) => (tx, .error e)

/-- Adds parcels in order up to the first one that is refused. -/
def addParcels (tx : Transaction) : List Parcel → Transaction × Except Error (List Int)
  | [] => (tx, .ok [])
  | p :: rest =>
    match tx.addParcel p with
    | (tx, .error e) => (tx, .error e)
    | (tx, .ok id) =>
      match tx.addParcels rest with
      | (tx, .ok ids) => (tx, .ok (id :: ids))
      | (tx, .error e) => (tx, .error e)

def addDraft (tx : Transaction) (d : Draft) : Transaction × Except Error Int := tx.addParcel d.toParcel

def addDrafts (tx : Transaction) (drafts : List Draft) : Transaction × Except Error (List Int) :=
  tx.addParcels (drafts.map Draft.toParcel)

/-- The tables behind a transaction: committed as they are where it succeeded, and else rolled back. -/
def finish {α : Type} : Transaction × Except Error α → Tables × Except Error α
  | (tx, .ok result) => (tx.current, .ok result)
  | (tx, .error e) => (tx.committed, .error e)

/-- Values under keys, all of characters alone, are added as they stand. -/
theorem addValues_whole (tx : Transaction) (id : Int) (pairs : List (String × String)) :
    tx.addValues id (pairs.map fun p => (.whole p.1, .whole p.2)) =
      (⟨tx.committed, (pairs.map fun p => ⟨id, p.1, p.2⟩).foldl Tables.addValue tx.current⟩, .ok ()) := by
  induction pairs generalizing tx with
  | nil => rfl
  | cons p pairs ih => exact ih { tx with current := tx.current.addValue ⟨id, p.1, p.2⟩ }

theorem mapM_encode_whole (s : Option String) : (s.map Raw.whole).mapM encode = .ok s := by
  cases s <;> rfl

theorem columnsOf_toParcel (d : Draft) : columnsOf d.toParcel = .ok { d with metadata := [] } := by
  simp only [columnsOf, Draft.toParcel, mapM_encode_whole, bind, Except.bind, pure, Except.pure]

theorem valuesOf_toParcel (d : Draft) : valuesOf d.toParcel.metadata =
    (d.metadata.flatMap fun entry => entry.2.map (entry.1, ·)).map fun p => (.whole p.1, .whole p.2) := by
  rw [valuesOf, Draft.toParcel, List.flatMap_map, List.map_flatMap]
  simp only [List.map_map]
  rfl

theorem metaRows_eq (id : Int) (metadata : Metadata) : Tables.metaRows id metadata =
    (metadata.flatMap fun entry => entry.2.map (entry.1, ·)).map fun p => ⟨id, p.1, p.2⟩ := by
  rw [Tables.metaRows, List.map_flatMap]
  simp only [List.map_map]
  rfl

theorem addRow_toParcel (tx : Transaction) (d : Draft) : tx.addRow d.toParcel =
    if !d.published.all CivilTime.hasNearOffset then (tx, .error .farOffset)
    else if !fits (tx.current.lastId + 1) then (tx, .error .full)
    else
      match Tables.rowOf? (tx.current.lastId + 1) d with
      | some row => ({ tx with current := tx.current.addRow row }, .ok row.id)
      | none => (tx, .error .missingText) := by
  rw [addRow, columnsOf_toParcel]
  rfl

/-- The statements of one draft change the current tables as a whole insertion does, or not at all, and never what
was committed. -/
theorem addDraft_eq (tx : Transaction) (d : Draft) : tx.addDraft d =
    match tx.current.insert d with
    | .ok (t, id) => (⟨tx.committed, t⟩, .ok id)
    | .error e => (tx, .error e) := by
  rw [addDraft, addParcel, addRow_toParcel]
  unfold Tables.insert
  cases d.published.all CivilTime.hasNearOffset with
  | false => rfl
  | true =>
    cases fits (tx.current.lastId + 1) with
    | false => rfl
    | true =>
      cases Tables.rowOf? (tx.current.lastId + 1) d with
      | none => rfl
      | some row =>
        simp only [Bool.not_true, Bool.false_eq_true, if_false, valuesOf_toParcel, addValues_whole, metaRows_eq,
          Tables.foldl_addValue]
        rfl

theorem addDrafts_cons (tx : Transaction) (d : Draft) (rest : List Draft) : tx.addDrafts (d :: rest) =
    match tx.addDraft d with
    | (tx, .error e) => (tx, .error e)
    | (tx, .ok id) =>
      match tx.addDrafts rest with
      | (tx, .ok ids) => (tx, .ok (id :: ids))
      | (tx, .error e) => (tx, .error e) := rfl

/-- A batch that is accepted has been added as a whole. -/
theorem addDrafts_of_ok (tx : Transaction) {drafts : List Draft} {t : Tables} {ids : List Int}
    (h : tx.current.insertAll drafts = .ok (t, ids)) : tx.addDrafts drafts = (⟨tx.committed, t⟩, .ok ids) := by
  induction drafts generalizing tx t ids with
  | nil =>
    obtain ⟨rfl, rfl⟩ := Prod.mk.inj (Except.ok.inj h)
    rfl
  | cons d drafts ih =>
    obtain ⟨middle, id, more, hinsert, hrest, rfl⟩ := Tables.insertAll_cons_eq_ok_iff.mp h
    have hmore := ih ⟨tx.committed, middle⟩ hrest
    rw [addDrafts_cons, addDraft_eq, hinsert]
    simp only [hmore]

/-- A batch that is refused has been added up to the draft that is refused, and what was committed is still there. -/
theorem addDrafts_of_error (tx : Transaction) {drafts : List Draft} {e : Error}
    (h : tx.current.insertAll drafts = .error e) : ∃ accepted refused rest t ids,
      drafts = accepted ++ refused :: rest ∧ tx.current.insertAll accepted = .ok (t, ids) ∧
      t.insert refused = .error e ∧ tx.addDrafts drafts = (⟨tx.committed, t⟩, .error e) := by
  induction drafts generalizing tx with
  | nil => cases h
  | cons d drafts ih =>
    rcases Tables.insertAll_cons_eq_error_iff.mp h with hinsert | ⟨middle, id, hinsert, hrest⟩
    · refine ⟨[], d, drafts, tx.current, [], rfl, rfl, hinsert, ?_⟩
      rw [addDrafts_cons, addDraft_eq, hinsert]
    · obtain ⟨accepted, refused, rest, t, ids, rfl, haccepted, hrefused, hmore⟩ :=
        ih ⟨tx.committed, middle⟩ hrest
      refine ⟨d :: accepted, refused, rest, t, id :: ids, rfl, ?_, hrefused, ?_⟩
      · exact Tables.insertAll_cons_eq_ok_iff.mpr ⟨middle, id, ids, hinsert, haccepted, rfl⟩
      · rw [addDrafts_cons, addDraft_eq, hinsert]
        simp only [hmore]

/-- At its end a transaction holds the batch where all of it is accepted, and else what it began with. -/
theorem finish_addDrafts (t : Tables) (drafts : List Draft) : finish ((start t).addDrafts drafts) =
    match t.insertAll drafts with
    | .ok (t', ids) => (t', .ok ids)
    | .error e => (t, .error e) := by
  cases hinsert : t.insertAll drafts with
  | ok result =>
    obtain ⟨t', ids⟩ := result
    rw [addDrafts_of_ok (start t) hinsert]
    rfl
  | error e =>
    obtain ⟨_, _, _, _, _, -, -, -, hrun⟩ := addDrafts_of_error (start t) hinsert
    rw [hrun]
    rfl

end Transaction

end TermSearch.Store

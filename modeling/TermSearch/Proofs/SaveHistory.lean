import TermSearch.Proofs.KeptTime
import TermSearch.Proofs.StoredRecord
import TermSearch.Proofs.Traversal
import TermSearch.Store.Connection

/-! Stores that were filled batch by batch. The rows have increasing identifiers up to the last one that was
given, their times lie within the calendar, and every identifier that was given out finds its record. -/
namespace TermSearch.Store

open Sql (RecordRow MetaRow)
open Calendar (CivilTime InCalendar)

/-- A draft without a time, or with one on a whole second within the years 1 to 9999. -/
def IsTimely (d : Draft) : Prop := ∀ time ∈ d.published, time.IsWhole

/-- Saves batches one after another, and gives the identifiers of their drafts in order. A refused batch gives
none. -/
def Connection.saveAll (c : Connection) : List (List Draft) → Connection × List Int
  | [] => (c, [])
  | batch :: rest =>
    match c.save batch with
    | (next, .ok ids) => ((next.saveAll rest).1, ids ++ (next.saveAll rest).2)
    | (next, .error _) => next.saveAll rest

namespace Tables

/-- What every insertion keeps, the insertion of several drafts keeps. -/
theorem insertAll_preserves {P : Tables → Prop} {drafts : List Draft}
    (hstep : ∀ d ∈ drafts, ∀ t t' id, P t → t.insert d = .ok (t', id) → P t') {t t' : Tables} {ids : List Int}
    (ht : P t) (h : t.insertAll drafts = .ok (t', ids)) : P t' := by
  induction drafts generalizing t ids with
  | nil =>
    obtain ⟨rfl, rfl⟩ := Prod.mk.inj (Except.ok.inj h)
    exact ht
  | cons d drafts ih =>
    obtain ⟨middle, id, more, hinsert, hrest, -⟩ := insertAll_cons_eq_ok_iff.mp h
    have hmiddle : P middle := hstep d List.mem_cons_self t middle id ht hinsert
    exact ih (fun d hd => hstep d (List.mem_cons_of_mem _ hd)) hmiddle hrest

end Tables

/-- What every insertion keeps, a run of saves keeps, whether the batches are saved or refused. -/
theorem Connection.saveAll_preserves {P : Tables → Prop} {batches : List (List Draft)}
    (hstep : ∀ batch ∈ batches, ∀ d ∈ batch, ∀ t t' id, P t → t.insert d = .ok (t', id) → P t') {c : Connection}
    (hc : P c.tables) : P (c.saveAll batches).1.tables := by
  induction batches generalizing c with
  | nil => exact hc
  | cons batch batches ih =>
    obtain ⟨hbatch, hbatches⟩ := List.forall_mem_cons.mp hstep
    rw [saveAll, save_eq]
    cases hread : c.reading fun t => t.insertAll batch with
    | error e => exact ih hbatches hc
    | ok result =>
      obtain ⟨tables, ids⟩ := result
      have htables : P tables := by
        unfold reading at hread
        split at hread
        · exact Tables.insertAll_preserves hbatch hc hread
        · cases hread
      exact ih hbatches htables

namespace Tables

/-- What the tables of a store satisfy at any time. -/
structure IsSound (t : Tables) : Prop where
  increasing : t.records.Pairwise fun a b => a.id < b.id
  bounded : ∀ row ∈ t.records, 0 < row.id ∧ row.id ≤ t.lastId
  nonneg : 0 ≤ t.lastId
  lastFits : fits t.lastId = true
  timely : ∀ row ∈ t.records, ∀ seconds ∈ row.published, InCalendar seconds

/-- The identifiers of the records increase up to the last one that was given. -/
structure IsNumbered (t : Tables) : Prop where
  increasing : t.records.Pairwise fun a b => a.id < b.id
  bounded : ∀ row ∈ t.records, row.id ≤ t.lastId

theorem IsNumbered.insert {t t' : Tables} {d : Draft} {id : Int} (ht : t.IsNumbered)
    (h : t.insert d = .ok (t', id)) : t'.IsNumbered := by
  obtain ⟨row, hrow, -, rfl, rfl⟩ := insert_eq_ok_iff.mp h
  have hid := rowOf?_id hrow
  refine ⟨List.pairwise_append.mpr ⟨ht.increasing, List.pairwise_singleton _ _, ?_⟩, ?_⟩
  · intro old hold new hnew
    have := ht.bounded old hold
    rw [List.mem_singleton.mp hnew, hid]
    omega
  · intro r hr
    change r.id ≤ row.id
    rcases List.mem_append.mp hr with hold | hnew
    · have := ht.bounded r hold
      omega
    · obtain rfl := List.mem_singleton.mp hnew
      exact Int.le_refl _

/-- After any run of saves the records are numbered, whatever the drafts are. -/
theorem isNumbered_saveAll (path : String) (batches : List (List Draft)) :
    ((Connection.openWith path .empty).saveAll batches).1.tables.IsNumbered :=
  Connection.saveAll_preserves (P := IsNumbered) (fun _ _ _ _ _ _ _ ht h => ht.insert h)
    ⟨List.Pairwise.nil, by simp [Connection.openWith, empty]⟩

theorem isSound_empty : empty.IsSound where
  increasing := List.Pairwise.nil
  bounded := by simp [empty]
  nonneg := Int.le_refl 0
  lastFits := by decide
  timely := by simp [empty]

/-- The columns of a row are the texts of its draft. -/
theorem rowOf?_texts {id : Int} {d : Draft} {row : RecordRow} (h : rowOf? id d = some row) :
    d.type = some row.type ∧ d.title = some row.title ∧ d.excerpt = some row.excerpt ∧ d.body = some row.body ∧
      d.password = some row.password := by
  simp only [rowOf?, Option.pure_def, Option.bind_eq_bind, Option.bind_eq_some_iff, Option.some.injEq] at h
  obtain ⟨type, htype, title, htitle, excerpt, hexcerpt, body, hbody, password, hpassword, rfl⟩ := h
  exact ⟨htype, htitle, hexcerpt, hbody, hpassword⟩

theorem rowOf?_inCalendar {id : Int} {d : Draft} {row : RecordRow} (h : rowOf? id d = some row)
    (htimely : IsTimely d) : ∀ seconds ∈ row.published, InCalendar seconds := by
  intro seconds hseconds
  rw [(rowOf?_columns h).2] at hseconds
  obtain ⟨time, htime, rfl⟩ := Option.map_eq_some_iff.mp hseconds
  obtain ⟨seconds, hin, hmicro⟩ := htimely time htime
  rw [CivilTime.wholeSeconds_of_whole hin hmicro]
  exact hin

theorem IsSound.insert {t t' : Tables} {d : Draft} {id : Int} (hsound : t.IsSound) (htimely : IsTimely d)
    (h : t.insert d = .ok (t', id)) :
    t'.IsSound ∧ t'.records.map RecordRow.id = t.records.map RecordRow.id ++ [id] := by
  obtain ⟨row, hrow, ⟨-, hfits⟩, rfl, rfl⟩ := insert_eq_ok_iff.mp h
  have hid := rowOf?_id hrow
  have hnonneg := hsound.nonneg
  have hnumbered : t.IsNumbered := ⟨hsound.increasing, fun row hrow => (hsound.bounded row hrow).2⟩
  refine ⟨⟨(hnumbered.insert h).increasing, ?_, ?_, ?_, ?_⟩, by simp⟩
  · intro r hr
    rcases List.mem_append.mp hr with hold | hnew
    · have := hsound.bounded r hold
      change 0 < r.id ∧ r.id ≤ row.id
      omega
    · rw [List.mem_singleton.mp hnew]
      change 0 < row.id ∧ row.id ≤ row.id
      omega
  · change 0 ≤ row.id
    omega
  · change fits row.id = true
    rw [hid, hfits]
  · intro r hr
    rcases List.mem_append.mp hr with hold | hnew
    · exact hsound.timely r hold
    · rw [List.mem_singleton.mp hnew]
      exact rowOf?_inCalendar hrow htimely

theorem IsSound.insertAll {t t' : Tables} {drafts : List Draft} {ids : List Int} (hsound : t.IsSound)
    (htimely : ∀ d ∈ drafts, IsTimely d) (h : t.insertAll drafts = .ok (t', ids)) :
    t'.IsSound ∧ t'.records.map RecordRow.id = t.records.map RecordRow.id ++ ids := by
  induction drafts generalizing t ids with
  | nil =>
    obtain ⟨rfl, rfl⟩ := Prod.mk.inj (Except.ok.inj h)
    exact ⟨hsound, (List.append_nil _).symm⟩
  | cons d drafts ih =>
    obtain ⟨middle, id, more, hinsert, hrest, rfl⟩ := insertAll_cons_eq_ok_iff.mp h
    obtain ⟨hmiddle, hids⟩ := hsound.insert (htimely d List.mem_cons_self) hinsert
    obtain ⟨hlast, hmore⟩ := ih hmiddle (fun d hd => htimely d (List.mem_cons_of_mem _ hd)) hrest
    exact ⟨hlast, by rw [hmore, hids, List.append_assoc, List.singleton_append]⟩

end Tables

/-- A run of saves leaves the connection open and its tables sound, with one row for each identifier given. -/
theorem Connection.saveAll_sound {c : Connection} {batches : List (List Draft)} (hopen : c.isOpen = true)
    (hsound : c.tables.IsSound) (htimely : ∀ batch ∈ batches, ∀ d ∈ batch, IsTimely d) :
    (c.saveAll batches).1.isOpen = true ∧ (c.saveAll batches).1.tables.IsSound ∧
      (c.saveAll batches).1.tables.records.map RecordRow.id =
        c.tables.records.map RecordRow.id ++ (c.saveAll batches).2 := by
  induction batches generalizing c with
  | nil => exact ⟨hopen, hsound, (List.append_nil _).symm⟩
  | cons batch batches ih =>
    obtain ⟨hbatch, hbatches⟩ := List.forall_mem_cons.mp htimely
    cases hinsert : c.tables.insertAll batch with
    | error e =>
      have hsave : c.save batch = (c, .error e) := by rw [save_eq, reading, if_pos hopen, hinsert]
      rw [saveAll, hsave]
      exact ih hopen hsound hbatches
    | ok result =>
      obtain ⟨tables, ids⟩ := result
      have hsave : c.save batch = ({ c with tables := tables }, .ok ids) := by
        rw [save_eq, reading, if_pos hopen, hinsert]
      obtain ⟨htables, hids⟩ := hsound.insertAll hbatch hinsert
      obtain ⟨hopen', hsound', hids'⟩ := ih (c := { c with tables := tables }) hopen htables hbatches
      rw [saveAll, hsave]
      refine ⟨hopen', hsound', ?_⟩
      rw [hids', hids, List.append_assoc]

namespace Tables

variable {t : Tables}

/-- The record of a row, whose time is left out where it cannot be read. -/
def recordAt (t : Tables) (row : RecordRow) : Record where
  id := some row.id
  title := row.title
  excerpt := row.excerpt
  body := row.body
  type := row.type
  password := row.password
  published := row.published.bind fun seconds => (CivilTime.ofSeconds? seconds).toOption
  metadata := t.metadataOf row.id

/-- The record of a row with a time within the calendar. -/
theorem IsSound.recordOf {row : RecordRow} (hsound : t.IsSound) (hrow : row ∈ t.records) :
    t.recordOf row = .ok (t.recordAt row) := by
  refine recordOf_eq_ok_iff.mpr ⟨_, ?_, rfl⟩
  have htimely := hsound.timely row hrow
  cases hpublished : row.published with
  | none => rw [timeOf, hpublished]; rfl
  | some seconds =>
    obtain ⟨time, htime, -⟩ := CivilTime.ofSeconds?_of_inCalendar (htimely seconds hpublished)
    rw [timeOf, hpublished]
    simp only [Option.bind_some, htime]
    rfl

/-- The instant of a record that was read from a sound row. -/
theorem IsSound.instant_recordAt {row : RecordRow} (hsound : t.IsSound) (hrow : row ∈ t.records) :
    (t.recordAt row).published.map CivilTime.instant =
      row.published.map fun seconds => seconds * ((Nat.pow 2 52 : Nat) : Int) := by
  have htimely := hsound.timely row hrow
  cases hpublished : row.published with
  | none => rw [recordAt, hpublished]; rfl
  | some seconds =>
    have hin := htimely seconds hpublished
    obtain ⟨time, htime, hmicro⟩ := CivilTime.ofSeconds?_of_inCalendar hin
    rw [recordAt, hpublished, Option.bind_some, htime]
    exact congrArg some (CivilTime.instant_of_whole hin hmicro)

theorem IsSound.fits_id {row : RecordRow} (hsound : t.IsSound) (hrow : row ∈ t.records) : fits row.id = true := by
  have hbounds := hsound.bounded row hrow
  have hlast := hsound.lastFits
  simp only [fits, Bool.and_eq_true, decide_eq_true_eq] at hlast ⊢
  omega

theorem find?_id {rows : List RecordRow} (h : rows.Pairwise fun a b => a.id < b.id) {row : RecordRow}
    (hrow : row ∈ rows) : rows.find? (fun r => r.id == row.id) = some row := by
  induction h with
  | nil => cases hrow
  | @cons first rest hfirst _ ih =>
    rw [List.find?_cons]
    rcases List.mem_cons.mp hrow with rfl | hrest
    · simp
    · have hne : (first.id == row.id) = false := beq_false_of_ne (Int.ne_of_lt (hfirst row hrest))
      rw [hne]
      exact ih hrest

theorem IsSound.get? {row : RecordRow} (hsound : t.IsSound) (hrow : row ∈ t.records) :
    t.get? row.id = .ok (some (t.recordAt row)) := by
  rw [Tables.get?, hsound.fits_id hrow, find?_id hsound.increasing hrow]
  simp only [hsound.recordOf hrow]
  rfl

end Tables

end TermSearch.Store

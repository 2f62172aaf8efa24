import TermSearch.CommandLine.Loading
import TermSearch.Proofs.AddedRecords

/-! What a store makes of the records that items give. Where all texts that are handed to the database are texts of
characters alone, they are saved as any batch. A half of a surrogate pair in one of them refuses the batch, also where
the row of its record stands in the tables already. -/
namespace TermSearch.Record

open Text (Raw HalfRun)

/-- A record is stored for one that an item gives: it has the same texts, all of characters alone, and the same
metadata. A key without values has no place in a store. -/
structure IsStoredAs (r : Imported) (record : Record) : Prop where
  id : record.id = r.id
  title : r.title = .whole record.title
  excerpt : r.excerpt = .whole record.excerpt
  body : r.body = .whole record.body
  type : r.type = .whole record.type
  password : r.password = .whole record.password
  published : record.published = r.published
  metadata : (r.metadata.filter fun entry => !entry.2.isEmpty) =
    record.metadata.map fun entry => (.whole entry.1, entry.2.map .whole)

/-- The texts that are handed to the database for a record. -/
def Imported.boundTexts (r : Imported) : List Raw :=
  [r.type, r.title, r.excerpt, r.body, r.password] ++
    (Store.Transaction.valuesOf r.metadata).flatMap fun value => [value.1, value.2]

/-- The record with the texts of an imported one, as they are shown. -/
def Imported.toRecord (r : Imported) : Record where
  id := r.id
  title := r.title.shown
  excerpt := r.excerpt.shown
  body := r.body.shown
  type := r.type.shown
  password := r.password.shown
  published := r.published
  metadata := (r.metadata.filter fun entry => !entry.2.isEmpty).map fun entry => (entry.1.shown, entry.2.map Raw.shown)

variable {r : Imported} {record : Record}

/-- A record with whole texts is stored as it is shown. -/
theorem isStoredAs_toRecord (h : ∀ s ∈ r.boundTexts, s = .whole s.shown) : IsStoredAs r r.toRecord := by
  have hrow : ∀ s ∈ [r.type, r.title, r.excerpt, r.body, r.password], s = .whole s.shown := fun s hs =>
    h s (List.mem_append_left _ hs)
  have hvalue : ∀ entry ∈ r.metadata, ∀ value ∈ entry.2,
      entry.1 = .whole entry.1.shown ∧ value = .whole value.shown := by
    intro entry hentry value hvalue
    have hmem : (entry.1, value) ∈ Store.Transaction.valuesOf r.metadata :=
      List.mem_flatMap.mpr ⟨entry, hentry, List.mem_map_of_mem hvalue⟩
    have hbound : ∀ s ∈ [entry.1, value], s = .whole s.shown := fun s hs =>
      h s (List.mem_append_right _ (List.mem_flatMap.mpr ⟨_, hmem, hs⟩))
    exact ⟨hbound _ (by simp), hbound _ (by simp)⟩
  refine ⟨rfl, hrow _ (by simp), hrow _ (by simp), hrow _ (by simp), hrow _ (by simp), hrow _ (by simp), rfl, ?_⟩
  have hentry : ∀ entry ∈ r.metadata.filter fun entry => !entry.2.isEmpty,
      (Raw.whole entry.1.shown, (entry.2.map Raw.shown).map Raw.whole) = entry := by
    rintro ⟨key, values⟩ hmem
    obtain ⟨hmem, hne⟩ := List.mem_filter.mp hmem
    obtain ⟨value, hvalues⟩ := List.exists_mem_of_ne_nil values (by simpa using hne)
    have hsame : values.map (Raw.whole ∘ Raw.shown) = values :=
      (List.map_congr_left fun value h => (hvalue _ hmem value h).2.symm).trans (List.map_id _)
    rw [List.map_map, hsame, ← (hvalue _ hmem value hvalues).1]
  rw [Imported.toRecord, List.map_map]
  exact ((List.map_congr_left hentry).trans (List.map_id _)).symm

/-- Keys without values are handed over with nothing. -/
theorem valuesOf_filter (metadata : List (Raw × List Raw)) :
    Store.Transaction.valuesOf (metadata.filter fun entry => !entry.2.isEmpty) =
      Store.Transaction.valuesOf metadata := by
  induction metadata with
  | nil => rfl
  | cons entry metadata ih =>
    obtain ⟨key, values⟩ := entry
    cases values with
    | nil => exact ih
    | cons value values => exact congrArg (((value :: values).map (key, ·)) ++ ·) ih

end TermSearch.Record

namespace TermSearch.Store

open Calendar (CivilTime)
open Record (Imported IsStoredAs)
open Text (Raw HalfRun)

namespace Transaction

variable {tx : Transaction} {r : Imported} {record : Record}

/-- The statements for an imported record are those for the record that is stored for it. -/
theorem addParcel_of_isStoredAs (h : IsStoredAs r record) (tx : Transaction) :
    tx.addParcel r.toParcel = tx.addDraft record.toDraft := by
  have hrow : tx.addRow r.toParcel = tx.addRow record.toDraft.toParcel := by
    have hparcel : r.toParcel = { record.toDraft.toParcel with metadata := r.metadata } := by
      rw [Imported.toParcel, h.title, h.excerpt, h.body, h.type, h.password, ← h.id, ← h.published]
      rfl
    rw [hparcel]
    rfl
  have hvalues : valuesOf r.toParcel.metadata = valuesOf record.toDraft.toParcel.metadata :=
    (Record.valuesOf_filter r.metadata).symm.trans (congrArg valuesOf h.metadata)
  rw [addDraft, addParcel, hrow, hvalues]
  rfl

end Transaction

/-- The reasons for which a store refuses an imported record: its date has an offset of a day or more, a half of a
surrogate pair stands in a text that is handed to the database, or there is no next identifier. -/
inductive IsRefusedBy (t : Tables) (r : Imported) : Error → Prop
  | farOffset (h : r.published.all CivilTime.hasNearOffset = false) : IsRefusedBy t r .farOffset
  | notEncoded {s : Raw} {halves : HalfRun} (h : s ∈ r.boundTexts) (halved : s.encoded = .error halves) :
      IsRefusedBy t r (.notEncoded halves)
  | full (h : fits (t.lastId + 1) = false) : IsRefusedBy t r .full

namespace Transaction

variable {tx : Transaction} {r : Imported} {record : Record}

theorem encode_cases (s : Raw) :
    (∃ halves, s.encoded = .error halves ∧ encode s = .error (.notEncoded halves)) ∨
      (s = .whole s.shown ∧ encode s = .ok s.shown) := by
  cases s with
  | whole s => exact .inr ⟨rfl, rfl⟩
  | halved h => exact .inl ⟨_, rfl, rfl⟩

/-- The columns of an imported record are those of the record that is shown, unless a half stands in one of them. -/
theorem columnsOf_cases (r : Imported) :
    (∃ s ∈ r.boundTexts, ∃ halves, s.encoded = .error halves ∧
      columnsOf r.toParcel = .error (.notEncoded halves)) ∨
    (∀ s ∈ [r.type, r.title, r.excerpt, r.body, r.password], s = .whole s.shown) ∧
      columnsOf r.toParcel = .ok { r.toRecord.toDraft with metadata := [] } := by
  have hcolumn (s : Raw) : (some s).mapM encode = (encode s).map some := rfl
  have hrow : ∀ s ∈ [r.type, r.title, r.excerpt, r.body, r.password], s ∈ r.boundTexts := fun s hs =>
    List.mem_append_left _ hs
  unfold columnsOf
  simp only [Imported.toParcel, hcolumn]
  rcases encode_cases r.type with ⟨halves, hhalved, herror⟩ | ⟨htypeWhole, htype⟩
  · rw [herror]
    exact .inl ⟨_, hrow _ (by simp), halves, hhalved, rfl⟩
  rcases encode_cases r.title with ⟨halves, hhalved, herror⟩ | ⟨htitleWhole, htitle⟩
  · rw [htype, herror]
    exact .inl ⟨_, hrow _ (by simp), halves, hhalved, rfl⟩
  rcases encode_cases r.excerpt with ⟨halves, hhalved, herror⟩ | ⟨hexcerptWhole, hexcerpt⟩
  · rw [htype, htitle, herror]
    exact .inl ⟨_, hrow _ (by simp), halves, hhalved, rfl⟩
  rcases encode_cases r.body with ⟨halves, hhalved, herror⟩ | ⟨hbodyWhole, hbody⟩
  · rw [htype, htitle, hexcerpt, herror]
    exact .inl ⟨_, hrow _ (by simp), halves, hhalved, rfl⟩
  rcases encode_cases r.password with ⟨halves, hhalved, herror⟩ | ⟨hpasswordWhole, hpassword⟩
  · rw [htype, htitle, hexcerpt, hbody, herror]
    exact .inl ⟨_, hrow _ (by simp), halves, hhalved, rfl⟩
  rw [htype, htitle, hexcerpt, hbody, hpassword]
  refine .inr ⟨?_, rfl⟩
  simpa using ⟨htypeWhole, htitleWhole, hexcerptWhole, hbodyWhole, hpasswordWhole⟩

/-- The row of an imported record is added, or it is refused for a reason. -/
theorem addRow_cases (tx : Transaction) (r : Imported) :
    (∃ e, IsRefusedBy tx.current r e ∧ tx.addRow r.toParcel = (tx, .error e)) ∨
    (∀ s ∈ [r.type, r.title, r.excerpt, r.body, r.password], s = .whole s.shown) ∧
      ∃ row, tx.addRow r.toParcel = (⟨tx.committed, tx.current.addRow row⟩, .ok row.id) := by
  unfold addRow
  split
  · rename_i hfar
    exact .inl ⟨_, .farOffset (Bool.not_eq_true' _ ▸ hfar), rfl⟩
  rcases columnsOf_cases r with ⟨s, hs, halves, hhalved, herror⟩ | ⟨hwhole, hcolumns⟩
  · rw [herror]
    exact .inl ⟨_, .notEncoded hs hhalved, rfl⟩
  rw [hcolumns]
  dsimp only
  split
  · rename_i hfull
    exact .inl ⟨_, .full (Bool.not_eq_true' _ ▸ hfull), rfl⟩
  · exact .inr ⟨hwhole, _, rfl⟩

/-- Metadata values are added unless a half stands in one of them or in its key; what was committed is not changed. -/
theorem addValues_cases (tx : Transaction) (id : Int) (pairs : List (Raw × Raw)) :
    ∃ tx', tx'.committed = tx.committed ∧
      ((∃ p ∈ pairs, ∃ s ∈ [p.1, p.2], ∃ halves, s.encoded = .error halves ∧
        tx.addValues id pairs = (tx', .error (.notEncoded halves))) ∨
      (∀ p ∈ pairs, ∀ s ∈ [p.1, p.2], s = .whole s.shown) ∧ tx.addValues id pairs = (tx', .ok ())) := by
  induction pairs generalizing tx with
  | nil => exact ⟨tx, rfl, .inr ⟨by simp, rfl⟩⟩
  | cons p pairs ih =>
    obtain ⟨key, value⟩ := p
    rw [addValues, addValue]
    rcases encode_cases key with ⟨halves, hhalved, herror⟩ | ⟨hkey, hencoded⟩
    · rw [herror]
      exact ⟨tx, rfl, .inl ⟨_, List.mem_cons_self, key, by simp, halves, hhalved, rfl⟩⟩
    rcases encode_cases value with ⟨halves, hhalved, herror⟩ | ⟨hvalue, hvalueEncoded⟩
    · rw [hencoded, herror]
      exact ⟨tx, rfl, .inl ⟨_, List.mem_cons_self, value, by simp, halves, hhalved, rfl⟩⟩
    rw [hencoded, hvalueEncoded]
    obtain ⟨tx', hcommitted, ⟨p, hp, hfault⟩ | ⟨hwhole, hdone⟩⟩ :=
      ih { tx with current := tx.current.addValue ⟨id, key.shown, value.shown⟩ }
    · exact ⟨tx', hcommitted, .inl ⟨p, List.mem_cons_of_mem _ hp, hfault⟩⟩
    · refine ⟨tx', hcommitted, .inr ⟨List.forall_mem_cons.mpr ⟨?_, hwhole⟩, hdone⟩⟩
      simpa using ⟨hkey, hvalue⟩

/-- An imported record is added as the record that is stored for it, or it is refused for a reason; what was committed is
not changed. -/
theorem addParcel_cases (tx : Transaction) (r : Imported) :
    (∃ e tx', IsRefusedBy tx.current r e ∧ tx'.committed = tx.committed ∧
      tx.addParcel r.toParcel = (tx', .error e)) ∨
    ∃ record t id, IsStoredAs r record ∧ tx.current.insert record.toDraft = .ok (t, id) ∧
      tx.addParcel r.toParcel = (⟨tx.committed, t⟩, .ok id) := by
  rcases addRow_cases tx r with ⟨e, hrefused, hrow⟩ | ⟨hwhole, row, hrow⟩
  · exact .inl ⟨e, tx, hrefused, rfl, by rw [addParcel, hrow]⟩
  obtain ⟨tx', hcommitted, ⟨p, hp, s, hs, halves, hhalved, herror⟩ | ⟨hvalues, hadded⟩⟩ :=
    addValues_cases ⟨tx.committed, tx.current.addRow row⟩ row.id (valuesOf r.metadata)
  · have hbound : s ∈ r.boundTexts := List.mem_append_right _ (List.mem_flatMap.mpr ⟨p, hp, hs⟩)
    refine .inl ⟨_, tx', .notEncoded hbound hhalved, hcommitted, ?_⟩
    rw [addParcel, hrow]
    dsimp only
    rw [show r.toParcel.metadata = r.metadata from rfl, herror]
  · have hstored := Record.isStoredAs_toRecord fun s hs => (List.mem_append.mp hs).elim (hwhole s) fun hs => by
      obtain ⟨p, hp, hs⟩ := List.mem_flatMap.mp hs
      exact hvalues p hp s hs
    have hparcel : tx.addParcel r.toParcel = (tx', .ok row.id) := by
      rw [addParcel, hrow]
      dsimp only
      rw [show r.toParcel.metadata = r.metadata from rfl, hadded]
    rw [hparcel]
    rw [addParcel_of_isStoredAs hstored, addDraft_eq] at hparcel
    cases hinsert : tx.current.insert r.toRecord.toDraft with
    | error e =>
      rw [hinsert] at hparcel
      cases hparcel
    | ok result =>
      rw [hinsert] at hparcel
      exact .inr ⟨_, _, _, hstored, hinsert, hparcel.symm⟩

/-- A batch of imported records is added as the records that are stored for them; or one of them is refused for a reason,
behind records that are added in the tables. -/
theorem addParcels_cases (tx : Transaction) (imported : List Imported) :
    (∃ records t ids, List.Forall₂ IsStoredAs imported records ∧
      tx.current.insertAll (records.map Record.toDraft) = .ok (t, ids) ∧
      tx.addParcels (imported.map Imported.toParcel) = (⟨tx.committed, t⟩, .ok ids)) ∨
    ∃ accepted refused rest records t ids e tx', imported = accepted ++ refused :: rest ∧
      List.Forall₂ IsStoredAs accepted records ∧
      tx.current.insertAll (records.map Record.toDraft) = .ok (t, ids) ∧ IsRefusedBy t refused e ∧
      tx'.committed = tx.committed ∧ tx.addParcels (imported.map Imported.toParcel) = (tx', .error e) := by
  induction imported generalizing tx with
  | nil => exact .inl ⟨[], tx.current, [], .nil, rfl, rfl⟩
  | cons r imported ih =>
    rw [List.map_cons, addParcels]
    rcases addParcel_cases tx r with ⟨e, tx', hrefused, hcommitted, hadd⟩ | ⟨record, t, id, hstored, hinsert, hadd⟩
    · rw [hadd]
      exact .inr ⟨[], r, imported, [], tx.current, [], e, tx', rfl, .nil, rfl, hrefused, hcommitted, rfl⟩
    rw [hadd]
    dsimp only
    rcases ih ⟨tx.committed, t⟩ with ⟨records, t', ids, hrecords, hall, hmore⟩ |
      ⟨accepted, refused, rest, records, t', ids, e, tx', rfl, hrecords, hall, hrefused, hcommitted, hmore⟩
    · rw [hmore]
      exact .inl ⟨record :: records, t', id :: ids, .cons hstored hrecords,
        Tables.insertAll_cons_eq_ok_iff.mpr ⟨t, id, ids, hinsert, hall, rfl⟩, rfl⟩
    · rw [hmore]
      exact .inr ⟨r :: accepted, refused, rest, record :: records, t', id :: ids, e, tx', rfl,
        .cons hstored hrecords, Tables.insertAll_cons_eq_ok_iff.mpr ⟨t, id, ids, hinsert, hall, rfl⟩, hrefused,
        hcommitted, rfl⟩

end Transaction

/-- The imported records of a batch are saved as the records that are stored for them; or the connection stays as it is,
because it is closed, or because a record behind others is refused for a reason. -/
theorem Connection.saveParcels_cases (c : Connection) (imported : List Imported) :
    (∃ records ids, List.Forall₂ IsStoredAs imported records ∧ (c.save (records.map Record.toDraft)).2 = .ok ids ∧
      c.saveParcels (imported.map Imported.toParcel) = c.save (records.map Record.toDraft)) ∨
    ∃ e, c.saveParcels (imported.map Imported.toParcel) = (c, .error e) ∧
      (c.isOpen = false ∧ e = .closed ∨
        ∃ accepted refused rest records t ids, imported = accepted ++ refused :: rest ∧
          List.Forall₂ IsStoredAs accepted records ∧
          c.tables.insertAll (records.map Record.toDraft) = .ok (t, ids) ∧ IsRefusedBy t refused e) := by
  cases hopen : c.isOpen with
  | false => exact .inr ⟨.closed, by rw [saveParcels, hopen]; rfl, .inl ⟨rfl, rfl⟩⟩
  | true =>
    rcases Transaction.addParcels_cases (.start c.tables) imported with
      ⟨records, t, ids, hrecords, hall, hadd⟩ |
      ⟨accepted, refused, rest, records, t, ids, e, tx', himported, hrecords, hall, hrefused, hcommitted, hadd⟩
    · have hsaved : c.save (records.map Record.toDraft) = ({ c with tables := t }, .ok ids) := by
        rw [save_eq, reading, hopen, if_pos rfl, show c.tables.insertAll _ = _ from hall]
      refine .inl ⟨records, ids, hrecords, by rw [hsaved], ?_⟩
      rw [hsaved, saveParcels, hopen, hadd]
      rfl
    · refine .inr ⟨e, ?_, .inr ⟨accepted, refused, rest, records, t, ids, himported, hrecords, hall, hrefused⟩⟩
      rw [saveParcels, hopen, hadd]
      have htables : tx'.committed = c.tables := hcommitted
      simp only [if_true, Transaction.finish, htables]
      rw [← hopen]

end TermSearch.Store

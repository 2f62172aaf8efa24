import TermSearch.Proofs.HiddenRecords
import TermSearch.Proofs.StoreRun

/-! The rows of the drafts that a store holds. Each saved draft has its row and its metadata rows under its identifier,
and reading by an identifier finds the row that was saved under it, or nothing. -/
namespace TermSearch.Store

open Sql (RecordRow MetaRow ResultRow Select)
open Calendar (CivilTime)

theorem filter_metaRows (id other : Int) (metadata : Metadata) :
    (Tables.metaRows other metadata).filter (fun m => m.recordId == id) =
      if other = id then Tables.metaRows other metadata else [] := by
  have hid : ∀ m ∈ Tables.metaRows other metadata, m.recordId = other := by
    intro m hm
    obtain ⟨entry, -, hvalue⟩ := List.mem_flatMap.mp hm
    obtain ⟨value, -, rfl⟩ := List.mem_map.mp hvalue
    rfl
  split
  · refine List.filter_eq_self.mpr fun m hm => ?_
    rw [hid m hm, beq_iff_eq]
    assumption
  · refine List.filter_eq_nil_iff.mpr fun m hm => ?_
    rw [hid m hm, beq_iff_eq]
    assumption

namespace Tables

variable {t : Tables} {saved : List (Int × Draft)} {entry : Int × Draft} {row : RecordRow}

theorem Holds.exists_row (h : t.Holds saved) (hentry : entry ∈ saved) :
    ∃ row ∈ t.records, rowOf? entry.1 entry.2 = some row := by
  have hmem := List.mem_map_of_mem (f := fun entry => rowOf? entry.1 entry.2) hentry
  rw [h.records] at hmem
  obtain ⟨row, hrow, heq⟩ := List.mem_map.mp hmem
  exact ⟨row, hrow, heq.symm⟩

theorem Holds.exists_entry (h : t.Holds saved) (hrow : row ∈ t.records) :
    ∃ entry ∈ saved, rowOf? entry.1 entry.2 = some row := by
  have hmem := List.mem_map_of_mem (f := some) hrow
  rw [← h.records] at hmem
  exact List.mem_map.mp hmem

/-- The records stand under the identifiers of the saved drafts, in their order. -/
theorem Holds.ids (h : t.Holds saved) : t.records.map RecordRow.id = saved.map Prod.fst := by
  have hrows : List.Forall₂ (fun entry row => rowOf? entry.1 entry.2 = some row) saved t.records := by
    rw [← List.forall₂_map_right_iff (f := some), ← List.forall₂_map_left_iff, h.records, List.forall₂_same]
    exact fun _ _ => rfl
  have hids : List.Forall₂ (· = ·) (t.records.map RecordRow.id) (saved.map Prod.fst) := by
    rw [List.forall₂_map_left_iff, List.forall₂_map_right_iff]
    exact (hrows.imp fun _ _ hrow => rowOf?_id hrow).flip
  rwa [List.forall₂_eq_eq_eq] at hids

theorem Holds.count_eq (h : t.Holds saved) : t.count = saved.length := by
  rw [count, ← List.length_map RecordRow.id, h.ids, List.length_map]

theorem Holds.isNumbered (h : t.Holds saved) : t.IsNumbered where
  increasing := by
    have hids := List.pairwise_map.mpr h.increasing
    rw [← h.ids] at hids
    exact List.pairwise_map.mp hids
  bounded := by
    intro row hrow
    obtain ⟨entry, hentry, hrowOf⟩ := h.exists_entry hrow
    rw [rowOf?_id hrowOf]
    exact (h.bounded entry hentry).2

theorem Holds.fits_id (h : t.Holds saved) (hentry : entry ∈ saved) : fits entry.1 = true := by
  have hbounds := h.bounded entry hentry
  have hlast := h.lastFits
  simp only [fits, Bool.and_eq_true, decide_eq_true_eq] at hlast ⊢
  omega

/-- The metadata rows under the identifier of a saved draft are its own. -/
theorem Holds.filter_metadata (h : t.Holds saved) (hentry : entry ∈ saved) :
    t.metadata.filter (fun m => m.recordId == entry.1) = metaRows entry.1 entry.2.metadata := by
  have hincreasing := h.increasing
  rw [h.metadata]
  clear h
  induction hincreasing with
  | nil => cases hentry
  | @cons first rest hfirst _ ih =>
    rw [List.flatMap_cons, List.filter_append, filter_metaRows]
    rcases List.mem_cons.mp hentry with rfl | hrest
    -- the identifiers increase, so that no later draft has this one
    · have hothers : (rest.flatMap fun e => metaRows e.1 e.2.metadata).filter (fun m => m.recordId == entry.1) = [] := by
        rw [List.filter_flatMap, List.flatMap_eq_nil_iff]
        intro other hother
        rw [filter_metaRows, if_neg (Int.ne_of_gt (hfirst other hother))]
      rw [if_pos rfl, hothers, List.append_nil]
    · rw [if_neg (Int.ne_of_lt (hfirst entry hrest)), ih hrest, List.nil_append]

/-- Reading by the identifier of a row gives the record of this row, or the failure to read it. -/
theorem Holds.get?_row (h : t.Holds saved) (hrow : row ∈ t.records) : t.get? row.id = some <$> t.recordOf row := by
  obtain ⟨entry, hentry, hrowOf⟩ := h.exists_entry hrow
  have hfits : fits row.id = true := by
    rw [rowOf?_id hrowOf]
    exact h.fits_id hentry
  rw [get?, hfits, find?_id h.isNumbered.increasing hrow]
  rfl

/-- Under an identifier that was not given there is no record. -/
theorem Holds.get?_of_not_mem (h : t.Holds saved) {id : Int} (hfits : fits id = true)
    (hid : id ∉ saved.map Prod.fst) : t.get? id = .ok none := by
  have hnone : t.records.find? (fun row => row.id == id) = none := by
    refine List.find?_eq_none.mpr fun row hrow hsame => hid ?_
    rw [← h.ids]
    exact List.mem_map.mpr ⟨row, hrow, beq_iff_eq.mp hsame⟩
  rw [get?, hfits, hnone]
  rfl

/-- A statement shows rows of the store only. -/
theorem row_mem_of_mem_run {q : Select} {r : ResultRow} (hr : r ∈ q.run t.metadata t.records) : r.row ∈ t.records := by
  have hshown : (q.run t.metadata t.records).Sublist (sortByKey q.rowKey (t.selected q)) := by
    unfold Select.run
    cases q.window with
    | none => exact List.Sublist.refl _
    | some w => exact w.apply_sublist _
  exact (mem_selected.mp (mem_sortByKey.mp (hshown.mem hr))).1.1

end Tables

end TermSearch.Store

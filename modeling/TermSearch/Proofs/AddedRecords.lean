import TermSearch.Proofs.KeptRecords
import TermSearch.Proofs.RefusedBatch

/-! What an accepted batch adds to a store. Its drafts stand under the identifiers that come next, in their order, with
their metadata behind all other metadata; and nothing else changes for whoever reads. -/
namespace TermSearch.Store

open Sql (RecordRow MetaRow)

namespace Tables

/-- The identifiers that are given next. -/
def nextIds (t : Tables) (n : Nat) : List Int := (List.range n).map fun i : Nat => t.lastId + 1 + i

@[simp] theorem length_nextIds (t : Tables) (n : Nat) : (t.nextIds n).length = n := by simp [nextIds]

theorem nextIds_succ {t t' : Tables} (h : t'.lastId = t.lastId + 1) (n : Nat) :
    t.nextIds (n + 1) = (t.lastId + 1) :: t'.nextIds n := by
  rw [nextIds, nextIds, List.range_succ_eq_map, List.map_cons, List.map_map, h]
  refine List.cons_eq_cons.mpr ⟨by simp, List.map_congr_left fun i _ => ?_⟩
  simp only [Function.comp_apply, Nat.succ_eq_add_one]
  omega

theorem mem_nextIds {t : Tables} {n : Nat} {id : Int} :
    id ∈ t.nextIds n ↔ t.lastId < id ∧ id ≤ t.lastId + n := by
  simp only [nextIds, List.mem_map, List.mem_range]
  constructor
  · rintro ⟨i, hi, rfl⟩
    omega
  · rintro ⟨hgreater, hle⟩
    exact ⟨(id - t.lastId - 1).toNat, by omega, by omega⟩

/-- Tables with the rows of a batch behind those of others, under the identifiers that come next. -/
structure Adds (t t' : Tables) (drafts : List Draft) : Prop where
  records : ∃ rows, t'.records = t.records ++ rows ∧
    List.Forall₂ (fun entry row => rowOf? entry.1 entry.2 = some row) ((t.nextIds drafts.length).zip drafts) rows
  metadata : t'.metadata = t.metadata ++
    ((t.nextIds drafts.length).zip drafts).flatMap fun entry => metaRows entry.1 entry.2.metadata
  lastId : t'.lastId = t.lastId + drafts.length

variable {t t' : Tables} {drafts : List Draft} {ids : List Int}

/-- An accepted batch is added as it stands. -/
theorem adds_of_insertAll (h : t.insertAll drafts = .ok (t', ids)) :
    ids = t.nextIds drafts.length ∧ t.Adds t' drafts := by
  induction drafts generalizing t ids with
  | nil =>
    obtain ⟨rfl, rfl⟩ := Prod.mk.inj (Except.ok.inj h)
    exact ⟨rfl, ⟨[], by simp, .nil⟩, by simp, by simp⟩
  | cons d drafts ih =>
    obtain ⟨middle, id, more, hinsert, hrest, rfl⟩ := insertAll_cons_eq_ok_iff.mp h
    obtain ⟨-, rfl, hlast⟩ := count_insert hinsert
    obtain ⟨row, hrow, -, hmiddle, hid⟩ := insert_eq_ok_iff.mp hinsert
    obtain ⟨rfl, ⟨rows, hrecords, hrows⟩, hmetadata, hlasts⟩ := ih hrest
    have hnext := nextIds_succ hlast drafts.length
    refine ⟨hnext.symm, ⟨row :: rows, ?_, ?_⟩, ?_, ?_⟩
    · rw [hrecords, hmiddle]
      simp
    · rw [List.length_cons, hnext, List.zip_cons_cons]
      exact .cons hrow hrows
    · rw [List.length_cons, hnext, List.zip_cons_cons, List.flatMap_cons, hmetadata, hmiddle, hid, List.append_assoc]
    · rw [hlasts, hlast, List.length_cons]
      omega

/-- Adding a draft changes nothing that is read under another identifier. -/
theorem get?_insert_of_ne {d : Draft} {id other : Int} (h : t.insert d = .ok (t', id)) (hne : other ≠ id) :
    t'.get? other = t.get? other := by
  obtain ⟨row, -, -, rfl, rfl⟩ := insert_eq_ok_iff.mp h
  have hnot : (row.id == other) = false := beq_false_of_ne hne.symm
  have hfind : (t.records ++ [row]).find? (fun r => r.id == other) = t.records.find? fun r => r.id == other := by
    rw [List.find?_append, List.find?_cons_of_neg (by simp [hnot])]
    simp
  have hmetadata : metadataOf ⟨t.records ++ [row], t.metadata ++ metaRows row.id d.metadata, row.id⟩ other =
      t.metadataOf other := by
    rw [metadataOf, metadataOf, List.filter_append, filter_metaRows, if_neg hne.symm, List.append_nil]
  unfold get?
  rw [hfind]
  cases hrow : t.records.find? fun r => r.id == other with
  | none => rfl
  | some found =>
    have hfound : found.id = other := by simpa using List.find?_some hrow
    subst hfound
    simp only [recordOf, hmetadata]

/-- An accepted batch changes nothing that is read under an identifier that was not given for it. -/
theorem get?_insertAll_of_not_mem {id : Int} (h : t.insertAll drafts = .ok (t', ids)) (hid : id ∉ ids) :
    t'.get? id = t.get? id := by
  induction drafts generalizing t ids with
  | nil =>
    obtain ⟨rfl, -⟩ := Prod.mk.inj (Except.ok.inj h)
    rfl
  | cons d drafts ih =>
    obtain ⟨middle, first, more, hinsert, hrest, rfl⟩ := insertAll_cons_eq_ok_iff.mp h
    obtain ⟨hne, hmore⟩ := List.ne_and_not_mem_of_not_mem_cons hid
    rw [ih hrest hmore, get?_insert_of_ne hinsert hne]

end Tables

namespace Connection

/-- What a save of some records adds to a store: one record for each, in their order, under the identifiers that come
next and under which there was none. Every other record is read as before. -/
structure Gains (c c' : Connection) (records : List Record) : Prop where
  adds : c.tables.Adds c'.tables (records.map Record.toDraft)
  count : ∃ n, c.count = .ok n ∧ c'.count = .ok (n + records.length)
  fresh : ∀ id ∈ c.tables.nextIds records.length, c.get? id = .ok none
  others : ∀ id ∉ c.tables.nextIds records.length, c'.get? id = c.get? id
  kept : ∀ id r, (id, r) ∈ (c.tables.nextIds records.length).zip records → IsPlain r.toDraft →
    ∃ read, c'.get? id = .ok (some read) ∧ IsKept id r.toDraft read

theorem gains_of_save {c : Connection} (h : ∃ saved, c.tables.Holds saved) {records : List Record} {ids : List Int}
    (hsave : (c.save (records.map Record.toDraft)).2 = .ok ids) :
    ids = c.tables.nextIds records.length ∧ c.Gains (c.save (records.map Record.toDraft)).1 records := by
  obtain ⟨saved, hsaved⟩ := h
  obtain ⟨hopen, t, hinsert, heq⟩ := save_eq_ok_iff.mp hsave
  obtain ⟨hids, hadds⟩ := Tables.adds_of_insertAll hinsert
  have hholds := hsaved.insertAll hinsert
  have hcount := (Tables.count_insertAll hinsert).1
  rw [List.length_map] at hids hcount
  have hopenNext : ({ c with tables := t } : Connection).isOpen = true := hopen
  rw [heq]
  refine ⟨hids, hadds, ⟨c.tables.count, ?_, ?_⟩, fun id hid => ?_, fun id hid => ?_, fun id r hentry hplain => ?_⟩
  · rw [count, reading_of_isOpen hopen]
  · rw [count, reading_of_isOpen hopenNext, hcount]
  · obtain ⟨hgreater, hle⟩ := Tables.mem_nextIds.mp hid
    have hlast := hadds.lastId
    rw [List.length_map] at hlast
    have hfits : fits id = true := by
      have hlastFits := hholds.lastFits
      have hnonneg := hsaved.nonneg
      simp only [fits, Bool.and_eq_true, decide_eq_true_eq] at hlastFits ⊢
      omega
    rw [get?, reading_of_isOpen hopen]
    refine hsaved.get?_of_not_mem hfits fun hmem => ?_
    obtain ⟨entry, hentry, rfl⟩ := List.mem_map.mp hmem
    have := (hsaved.bounded entry hentry).2
    omega
  · rw [get?, get?, reading_of_isOpen hopen, reading_of_isOpen hopenNext]
    exact Tables.get?_insertAll_of_not_mem hinsert (hids ▸ hid)
  · have hsavedEntry : (id, r.toDraft) ∈ ids.zip (records.map Record.toDraft) := by
      rw [hids, List.zip_map_right]
      exact List.mem_map.mpr ⟨(id, r), hentry, rfl⟩
    rw [get?, reading_of_isOpen hopenNext]
    exact hholds.exists_get? (List.mem_append_right _ hsavedEntry) hplain

end Connection

end TermSearch.Store

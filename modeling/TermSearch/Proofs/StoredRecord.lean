import TermSearch.Proofs.QueryMeaning
import TermSearch.Store.Tables

/-! The record that is read from a row. Its texts are the columns of the row, and the values under a key are
those of the metadata rows with this key. -/
namespace TermSearch.Store

open Sql (RecordRow MetaRow)
open Calendar (CivilTime)
open Query (Field FieldSet)

/-- Adds a metadata value behind those of its key. -/
def addValue (groups : Metadata) (m : MetaRow) : Metadata :=
  Assoc.update m.key [] (· ++ [m.value]) groups

/-- A value stands under a key. -/
def HasValue (metadata : Metadata) (key value : String) : Prop :=
  ∃ values, Assoc.find? key metadata = some values ∧ value ∈ values

theorem hasValue_addValue {groups : Metadata} {m : MetaRow} {key value : String} :
    HasValue (addValue groups m) key value ↔ HasValue groups key value ∨ (m.key = key ∧ m.value = value) := by
  unfold HasValue addValue Assoc.update
  rw [Assoc.find?_insert]
  by_cases h : m.key = key
  · subst h
    cases hfind : Assoc.find? m.key groups <;> simp [eq_comm]
  · simp [h]

theorem hasValue_foldl_addValue {rows : List MetaRow} {groups : Metadata} {key value : String} :
    HasValue (rows.foldl addValue groups) key value ↔
      HasValue groups key value ∨ ∃ m ∈ rows, m.key = key ∧ m.value = value := by
  induction rows generalizing groups with
  | nil => simp
  | cons m rows ih =>
    rw [List.foldl_cons, ih, hasValue_addValue, or_assoc]
    simp only [List.mem_cons, exists_eq_or_imp]

namespace Tables

/-- The values under a key of a record are those of its metadata rows. -/
theorem hasValue_metadataOf {t : Tables} {id : Int} {key value : String} :
    HasValue (t.metadataOf id) key value ↔ ⟨id, key, value⟩ ∈ t.metadata := by
  have hempty : ¬ HasValue [] key value := by
    rintro ⟨values, hfind, -⟩
    cases hfind
  have hfold : t.metadataOf id = (t.metadata.filter fun m => m.recordId == id).foldl addValue [] := rfl
  rw [hfold, hasValue_foldl_addValue, or_iff_right hempty]
  constructor
  · rintro ⟨⟨i, k, v⟩, hm, rfl, rfl⟩
    obtain ⟨hrow, hi⟩ := List.mem_filter.mp hm
    obtain rfl : i = id := by simpa using hi
    exact hrow
  · intro hm
    exact ⟨_, List.mem_filter.mpr ⟨hm, by simp⟩, rfl, rfl⟩

/-- A row whose time can be read is read as the record with its columns. -/
theorem recordOf_eq_ok_iff {t : Tables} {row : RecordRow} {record : Record} :
    t.recordOf row = .ok record ↔ ∃ published, timeOf row = .ok published ∧
      record = ⟨some row.id, row.title, row.excerpt, row.body, row.type, row.password, published,
        t.metadataOf row.id⟩ := by
  unfold recordOf
  cases timeOf row with
  | error e => simp [bind, Except.bind]
  | ok published => simp [bind, Except.bind, pure, Except.pure, eq_comm]

/-- The searched metadata values of a stored record, as rows. -/
theorem mem_metadataTexts_metadataOf {t : Tables} {id : Int} {metaKeys : List String} {s : String} :
    s ∈ Query.metadataTexts metaKeys (t.metadataOf id) ↔
      ∃ m ∈ t.metadata, m.recordId = id ∧ (metaKeys = [] ∨ m.key ∈ metaKeys) ∧ m.value = s := by
  rw [Query.mem_metadataTexts]
  constructor
  · rintro ⟨key, values, hfind, hkey, hs⟩
    exact ⟨_, hasValue_metadataOf.mp ⟨values, hfind, hs⟩, rfl, hkey, rfl⟩
  · rintro ⟨m, hm, rfl, hkey, rfl⟩
    obtain ⟨values, hfind, hs⟩ := hasValue_metadataOf.mpr hm
    exact ⟨m.key, values, hfind, hkey, hs⟩

end Tables

end TermSearch.Store

import Mathlib.Data.List.Nodup
import TermSearch.Proofs.StoredRecord

/-! Metadata is kept in rows of one value each. Grouping these rows by their keys gives back the metadata, in the order
of its keys and without the keys that have no value. -/
namespace TermSearch.Store

open Sql (MetaRow)

variable {groups metadata : Metadata} {key : String}

theorem addValue_append_singleton (h : key ∉ Assoc.keys groups) (id : Int) (before : List String) (value : String) :
    addValue (groups ++ [(key, before)]) ⟨id, key, value⟩ = groups ++ [(key, before ++ [value])] := by
  rw [addValue, Assoc.update, Assoc.find?_append_of_not_mem h, Assoc.insert_append_of_not_mem h]
  simp [Assoc.find?_cons, Assoc.insert_cons]

theorem addValue_of_not_mem (h : key ∉ Assoc.keys groups) (id : Int) (value : String) :
    addValue groups ⟨id, key, value⟩ = groups ++ [(key, [value])] := by
  have hinsert := Assoc.insert_append_of_not_mem h [value] []
  have hfind := Assoc.find?_append_of_not_mem h []
  rw [List.append_nil] at hinsert hfind
  rw [addValue, Assoc.update, hfind]
  exact hinsert

/-- Rows of the last key join the values that it has. -/
theorem foldl_addValue_last (h : key ∉ Assoc.keys groups) (id : Int) (before values : List String) :
    (values.map fun value => (⟨id, key, value⟩ : MetaRow)).foldl addValue (groups ++ [(key, before)]) =
      groups ++ [(key, before ++ values)] := by
  induction values generalizing before with
  | nil => rw [List.append_nil]; rfl
  | cons value values ih =>
    rw [List.map_cons, List.foldl_cons, addValue_append_singleton h, ih, List.append_assoc, List.singleton_append]

/-- Rows of a new key put it behind the others, if there are any. -/
theorem foldl_addValue_new (h : key ∉ Assoc.keys groups) (id : Int) (values : List String) :
    (values.map fun value => (⟨id, key, value⟩ : MetaRow)).foldl addValue groups =
      groups ++ [(key, values)].filter fun entry => !entry.2.isEmpty := by
  cases values with
  | nil => exact (List.append_nil groups).symm
  | cons value values =>
    rw [List.map_cons, List.foldl_cons, addValue_of_not_mem h, foldl_addValue_last h]
    rfl

/-- The rows of metadata with distinct keys, grouped behind others, are the metadata without keys that have no value. -/
theorem foldl_addValue_metaRows (hkeys : (Assoc.keys (groups ++ metadata)).Nodup) (id : Int) :
    (Tables.metaRows id metadata).foldl addValue groups =
      groups ++ metadata.filter fun entry => !entry.2.isEmpty := by
  induction metadata generalizing groups with
  | nil => exact (List.append_nil groups).symm
  | cons entry metadata ih =>
    obtain ⟨key, values⟩ := entry
    have hnew : key ∉ Assoc.keys groups := by
      rw [Assoc.keys, List.map_append, List.map_cons, List.nodup_middle, List.nodup_cons, List.mem_append, not_or] at hkeys
      exact hkeys.1.1
    have hrest : (Assoc.keys ((groups ++ [(key, values)].filter fun entry => !entry.2.isEmpty) ++ metadata)).Nodup := by
      rw [← List.singleton_append, ← List.append_assoc] at hkeys
      exact hkeys.sublist ((((List.Sublist.refl groups).append List.filter_sublist).append_right metadata).map Prod.fst)
    have hrows : Tables.metaRows id ((key, values) :: metadata) =
        (values.map fun value => ⟨id, key, value⟩) ++ Tables.metaRows id metadata := List.flatMap_cons
    rw [hrows, List.foldl_append, foldl_addValue_new hnew, ih hrest, List.append_assoc, ← List.filter_append]
    rfl

namespace Tables

/-- The rows of metadata with distinct keys are read back as this metadata, without the keys that have no value. -/
theorem metadataOf_eq {t : Tables} {id : Int} (hkeys : (Assoc.keys metadata).Nodup)
    (hrows : t.metadata.filter (fun m => m.recordId == id) = metaRows id metadata) :
    t.metadataOf id = metadata.filter fun entry => !entry.2.isEmpty := by
  have hfold : t.metadataOf id = (metaRows id metadata).foldl addValue [] := by
    rw [← hrows]
    rfl
  rw [hfold, foldl_addValue_metaRows (by rwa [List.nil_append]), List.nil_append]

end Tables

end TermSearch.Store

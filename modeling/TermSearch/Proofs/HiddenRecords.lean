import Mathlib.Data.List.Nodup
import TermSearch.Proofs.MatchingHits

/-! Protected records and a search without them. The conditions of such a search leave out every row with a password,
and an expression looks at the metadata of its own row only. Main statement: the hits, with their ranks and their
order, are those of the store from which the protected records were taken out, under any limit and offset. -/
namespace TermSearch.Sql

namespace Expr

variable (metadata : List MetaRow) (row : RecordRow)

mutual

/-- The value of an expression depends on the metadata of its row only. -/
theorem value_filter : ∀ e : Expr,
    value (metadata.filter fun m => m.recordId == row.id) row e = value metadata row e
  | number _ => rfl
  | like _ _ => rfl
  | metaLike keys operand => by
    rw [value, value, List.any_filter]
    refine congrArg (fun f => ofBool (metadata.any f)) (funext fun m => ?_)
    cases m.recordId == row.id <;> simp
  | among _ _ => rfl
  | isEmptyText _ => rfl
  | not e => by rw [value, value, value_filter e]
  | conj es => by rw [value, value, allNonzero_filter es]
  | disj es => by rw [value, value, anyNonzero_filter es]
  | sum es => by rw [value, value, total_filter es]
  | group e => by rw [value, value, value_filter e]

theorem allNonzero_filter : ∀ es : List Expr,
    allNonzero (metadata.filter fun m => m.recordId == row.id) row es = allNonzero metadata row es
  | [] => rfl
  | e :: rest => by rw [allNonzero, allNonzero, value_filter e, allNonzero_filter rest]

theorem anyNonzero_filter : ∀ es : List Expr,
    anyNonzero (metadata.filter fun m => m.recordId == row.id) row es = anyNonzero metadata row es
  | [] => rfl
  | e :: rest => by rw [anyNonzero, anyNonzero, value_filter e, anyNonzero_filter rest]

theorem total_filter : ∀ es : List Expr,
    total (metadata.filter fun m => m.recordId == row.id) row es = total metadata row es
  | [] => rfl
  | e :: rest => by rw [total, total, value_filter e, total_filter rest]

end

end Expr

namespace Window

variable {α : Type}

theorem between_sublist (limit offset : Int) (xs : List α) : (between limit offset xs).Sublist xs := by
  unfold between
  dsimp only
  split
  · exact List.drop_sublist _ _
  · exact (List.take_sublist _ _).trans (List.drop_sublist _ _)

/-- A window shows a part of a list in its order. -/
theorem apply_sublist (w : Window) (xs : List α) : (w.apply xs).Sublist xs := by
  unfold apply
  split
  · exact between_sublist _ _ xs
  · exact List.nil_sublist xs

end Window

end TermSearch.Sql

namespace TermSearch.Store

open Sql (RecordRow MetaRow ResultRow Select Expr Window ofPlan)
open Query (FieldSet Options Plan Scope)

namespace Tables

/-- No two records have one identifier. -/
def IsKeyed (t : Tables) : Prop := (t.records.map RecordRow.id).Nodup

theorem IsNumbered.isKeyed {t : Tables} (h : t.IsNumbered) : t.IsKeyed :=
  List.pairwise_map.mpr (h.increasing.imp Int.ne_of_lt)

/-- Takes out every record with a password, and its metadata. -/
def withoutProtected (t : Tables) : Tables where
  records := t.records.filter fun row => row.password.isEmpty
  metadata := t.metadata.filter fun m => !t.records.any fun row => row.id == m.recordId && !row.password.isEmpty
  lastId := t.lastId

/-- Two stores have the same records among those to be kept, with the same metadata. -/
structure AgreeOn (keep : RecordRow → Bool) (t t' : Tables) : Prop where
  records : t.records.filter keep = t'.records.filter keep
  metadata : ∀ row ∈ t.records, keep row = true → (t.metadata.filter fun m => m.recordId == row.id) =
    t'.metadata.filter fun m => m.recordId == row.id

variable {keep : RecordRow → Bool} {t t' : Tables} {row : RecordRow}

theorem AgreeOn.recordOf (h : AgreeOn keep t t') (hrow : row ∈ t.records) (hkeep : keep row = true) :
    t.recordOf row = t'.recordOf row := by
  have hmetadata : t.metadataOf row.id = t'.metadataOf row.id := by
    rw [metadataOf, metadataOf, h.metadata row hrow hkeep]
  rw [Tables.recordOf, Tables.recordOf, hmetadata]

theorem AgreeOn.value (h : AgreeOn keep t t') (hrow : row ∈ t.records) (hkeep : keep row = true) (e : Expr) :
    e.value t.metadata row = e.value t'.metadata row := by
  rw [← Expr.value_filter t.metadata, ← Expr.value_filter t'.metadata, h.metadata row hrow hkeep]

theorem AgreeOn.allNonzero (h : AgreeOn keep t t') (hrow : row ∈ t.records) (hkeep : keep row = true)
    (es : List Expr) : Expr.allNonzero t.metadata row es = Expr.allNonzero t'.metadata row es := by
  rw [← Expr.allNonzero_filter t.metadata, ← Expr.allNonzero_filter t'.metadata, h.metadata row hrow hkeep]

/-- What selects kept rows only selects the same rows in both stores, with the same match counts. -/
theorem AgreeOn.selected (h : AgreeOn keep t t') {q : Select}
    (hq : ∀ metadata row, Expr.allNonzero metadata row q.conditions = true → keep row = true) :
    t.selected q = t'.selected q := by
  have hkept (u : Tables) : (u.records.filter fun row => Expr.allNonzero u.metadata row q.conditions) =
      (u.records.filter keep).filter fun row => Expr.allNonzero u.metadata row q.conditions := by
    rw [List.filter_filter]
    refine List.filter_congr fun row _ => ?_
    cases hselected : Expr.allNonzero u.metadata row q.conditions with
    | false => rfl
    | true => rw [hq u.metadata row hselected]; rfl
  have hrows : ((t.records.filter keep).filter fun row => Expr.allNonzero t.metadata row q.conditions) =
      (t.records.filter keep).filter fun row => Expr.allNonzero t'.metadata row q.conditions := by
    refine List.filter_congr fun row hrow => ?_
    obtain ⟨hmem, hkeep⟩ := List.mem_filter.mp hrow
    exact h.allNonzero hmem hkeep q.conditions
  rw [Tables.selected, Tables.selected, hkept t, hkept t', ← h.records, ← hrows]
  refine List.map_congr_left fun row hrow => ?_
  obtain ⟨hmem, hkeep⟩ := List.mem_filter.mp (List.mem_filter.mp hrow).1
  rw [h.value hmem hkeep]

/-- A statement that selects kept rows only has the same hits in both stores, or fails in both. -/
theorem AgreeOn.execute (h : AgreeOn keep t t') {q : Select}
    (hq : ∀ metadata row, Expr.allNonzero metadata row q.conditions = true → keep row = true) :
    t.execute q = t'.execute q := by
  have hselected := h.selected hq
  have hmatching : q.matching t.metadata t.records = q.matching t'.metadata t'.records :=
    congrArg (sortByKey q.rowKey) hselected
  have hrun : q.run t.metadata t.records = q.run t'.metadata t'.records := by
    rw [Select.run, Select.run, hmatching]
  have hshown : (q.run t.metadata t.records).Sublist (sortByKey q.rowKey (t.selected q)) := by
    unfold Select.run
    cases q.window with
    | none => exact List.Sublist.refl _
    | some w => exact w.apply_sublist _
  have hhits : ∀ r ∈ q.run t.metadata t.records, t.hitOf r = t'.hitOf r := by
    intro r hr
    obtain ⟨⟨hrow, hall⟩, -⟩ := mem_selected.mp (mem_sortByKey.mp (hshown.mem hr))
    rw [hitOf, hitOf, h.recordOf hrow (hq _ _ hall)]
  rw [Tables.execute, Tables.execute, mapM_congr_of_mem hhits, hrun]

/-- Taking out the protected records leaves the others with their metadata. -/
theorem agreeOn_withoutProtected (h : t.IsKeyed) :
    AgreeOn (fun row => row.password.isEmpty) t.withoutProtected t := by
  refine ⟨?_, fun row hrow hopen => ?_⟩
  · rw [withoutProtected, List.filter_filter]
    simp
  · have hmem : row ∈ t.records := (List.mem_filter.mp hrow).1
    rw [withoutProtected, List.filter_filter]
    refine List.filter_congr fun m _ => ?_
    cases hid : m.recordId == row.id with
    | false => rfl
    | true =>
      -- another row of this identifier would be the same row, which has no password
      have hnone : t.records.any (fun other => other.id == m.recordId && !other.password.isEmpty) = false := by
        refine List.any_eq_false.mpr fun other hother hboth => ?_
        obtain ⟨hsame, hprotected⟩ := Bool.and_eq_true_iff.mp hboth
        have heq : other.id = row.id := (beq_iff_eq.mp hsame).trans (beq_iff_eq.mp hid)
        rw [List.inj_on_of_nodup_map h hother hmem heq, hopen] at hprotected
        cases hprotected
      rw [hnone]
      rfl

theorem execute_withoutProtected (h : t.IsKeyed) {q : Select}
    (hq : ∀ metadata row, Expr.allNonzero metadata row q.conditions = true → row.password.isEmpty = true) :
    t.withoutProtected.execute q = t.execute q := (agreeOn_withoutProtected h).execute hq

end Tables

/-- The statement of a search that does not include protected records selects none of them. -/
theorem isEmpty_of_selected {plan : Plan} {metaKeys : List String} {scope : Scope} {window : Option Window}
    {q : Select} (hq : ofPlan plan metaKeys scope window = .ok q) (hscope : scope.includeProtected = false)
    {metadata : List MetaRow} {row : RecordRow} (h : Expr.allNonzero metadata row q.conditions = true) :
    row.password.isEmpty = true := by
  obtain ⟨counter, condition, -, -, rfl⟩ := Sql.ofPlan_eq_ok_iff.mp hq
  have hpassword : (Expr.isEmptyText .password).isTrue metadata row = true := by
    refine Expr.allNonzero_iff.mp h _ ?_
    simp [hscope]
  rw [Expr.isTrue, Expr.value, Expr.ofBool_ne_zero] at hpassword
  exact hpassword

theorem isKeyed_saveAll (path : String) (batches : List (List Draft)) :
    ((Connection.openWith path .empty).saveAll batches).1.tables.IsKeyed :=
  (Tables.isNumbered_saveAll path batches).isKeyed

/-- A search that does not include protected records finds in a store what it finds where they were taken out: the
same records with the same ranks in the same order, or the same failure. Stores that are the same without their
protected records cannot be told apart by it. -/
theorem execute_withoutProtected_eq (fields : FieldSet) (options : Options) (tokens types : List String)
    (window : Option Window) : ∃ plan q, Query.compile fields options tokens = .ok plan ∧
      ofPlan plan fields.metaKeys ⟨types, false⟩ window = .ok q ∧
      (∀ t : Tables, t.IsKeyed → t.withoutProtected.execute q = t.execute q) ∧
      ∀ t t' : Tables, t.IsKeyed → t'.IsKeyed → t.withoutProtected.records = t'.withoutProtected.records →
        t.withoutProtected.metadata = t'.withoutProtected.metadata → t.execute q = t'.execute q := by
  obtain ⟨plan, hcompile, hplan, -⟩ := Query.exists_compile fields options tokens
  obtain ⟨q, hq⟩ := Sql.exists_ofPlan hplan fields.metaKeys ⟨types, false⟩ window
  have hopen : ∀ metadata row, Expr.allNonzero metadata row q.conditions = true → row.password.isEmpty = true :=
    fun metadata row h => isEmpty_of_selected hq rfl h
  refine ⟨plan, q, hcompile, hq, fun t ht => Tables.execute_withoutProtected ht hopen, ?_⟩
  intro t t' ht ht' hrecords hmetadata
  have hagree : Tables.AgreeOn (fun row => row.password.isEmpty) t.withoutProtected t'.withoutProtected :=
    ⟨by rw [hrecords], fun row _ _ => by rw [hmetadata]⟩
  rw [← Tables.execute_withoutProtected ht hopen, hagree.execute hopen, Tables.execute_withoutProtected ht' hopen]

/-- A draft on the moon. -/
def moonDraft (body password : String) : Draft where
  id := none
  title := some "Moon"
  excerpt := some ""
  body := some body
  type := some "post"
  password := some password
  published := none
  metadata := [("place", [body])]

/-- A store with an open and a protected record on the moon. -/
def moonStore (hidden : String) : Tables :=
  ((Connection.openWith "records.db" .empty).saveAll
    [[moonDraft hidden "secret", moonDraft "half moon bay" ""]]).1.tables

theorem execute_withoutProtected_eq_moonStore : (moonStore "full moon").count = 2 ∧
    (moonStore "full moon").withoutProtected.count = 1 ∧ moonStore "full moon" ≠ moonStore "sun" ∧
    ∃ plan q, Query.compile (.everything []) {} ["moon"] = .ok plan ∧
      ofPlan plan [] ⟨["post"], false⟩ (some ⟨.int 1, .int 0⟩) = .ok q ∧
      (moonStore "full moon").withoutProtected.execute q = (moonStore "full moon").execute q ∧
      (moonStore "full moon").execute q = (moonStore "sun").execute q := by
  obtain ⟨plan, q, hcompile, hq, hwithout, hsame⟩ :=
    execute_withoutProtected_eq (.everything []) {} ["moon"] ["post"] (some ⟨.int 1, .int 0⟩)
  have hkeyed (hidden : String) : (moonStore hidden).IsKeyed := isKeyed_saveAll _ _
  refine ⟨by decide +kernel, by decide +kernel, by decide +kernel, plan, q, hcompile, hq, hwithout _ (hkeyed _), ?_⟩
  exact hsame _ _ (hkeyed _) (hkeyed _) (by decide +kernel) (by decide +kernel)

end TermSearch.Store

import TermSearch.Proofs.KeyOrder
import TermSearch.Proofs.SaveHistory
import TermSearch.Proofs.SelectText

/-! What a database answers to the text of a statement with its parameters. Rows that no term of the order tells apart
may come in any order, so that an answer is not determined by the text alone. Main statement: the statement of a plan
tells all rows apart, for it ends with their identifiers; it has one answer, which is the one that `execute` gives. -/
namespace TermSearch.Store

open Sql (RecordRow ResultRow Select Expr Param Statement)
open Query (Plan Scope Hit)

/-- The time that a column gives, or that there is none. -/
def timeOfValue? : Param → Option (Option Int)
  | .int seconds => some (some seconds)
  | .null => some none
  | _ => none

/-- The row and the match count that are taken from the columns of a result, by their places. -/
def rowOfTuple? : List Param → Option ResultRow
  | [.int id, .text type, .text title, .text excerpt, .text body, .text password, published, .int count] =>
    (timeOfValue? published).map (⟨⟨id, type, title, excerpt, body, password, ·⟩, count⟩)
  | _ => none

namespace Tables

/-- The database may answer a text with some parameters in some way. -/
def Answers (t : Tables) (text : String) (params : List Param) (answer : Except Error (List Hit)) : Prop :=
  if params.all paramFits then
    ∃ s, Sql.readStatement text params = some s ∧
      if s.window.any fun w => w.counts?.isNone then answer = .error .noCount
      else ∃ tuples rows, s.MayGive t.metadata t.records tuples ∧ tuples.mapM rowOfTuple? = some rows ∧
        answer = rows.mapM t.hitOf
  else answer = .error .integerTooLarge

/-- The rows that a statement selects, in the order in which they were saved. -/
def selected (t : Tables) (q : Select) : List ResultRow :=
  (t.records.filter fun row => Expr.allNonzero t.metadata row q.conditions).map fun row =>
    ⟨row, q.matchCount.value t.metadata row⟩

variable {t : Tables} {q : Select} {r : ResultRow}

theorem mem_selected : r ∈ t.selected q ↔
    (r.row ∈ t.records ∧ Expr.allNonzero t.metadata r.row q.conditions = true) ∧
      r.matchCount = q.matchCount.value t.metadata r.row := by
  rw [selected, List.mem_map]
  constructor
  · rintro ⟨row, hrow, rfl⟩
    exact ⟨List.mem_filter.mp hrow, rfl⟩
  · rintro ⟨hrow, hcount⟩
    exact ⟨r.row, List.mem_filter.mpr hrow, by rw [← hcount]⟩

/-- Rows with distinct identifiers have distinct keys, for a key ends with the identifier. -/
theorem eq_of_rowKey_eq (hids : t.records.Pairwise fun a b => a.id < b.id) {a b : ResultRow} (ha : a ∈ t.selected q)
    (hb : b ∈ t.selected q) (h : q.rowKey a = q.rowKey b) : a = b := by
  obtain ⟨⟨harow, -⟩, hacount⟩ := mem_selected.mp ha
  obtain ⟨⟨hbrow, -⟩, hbcount⟩ := mem_selected.mp hb
  have hid : a.row.id = b.row.id := by
    have hlast := congrArg List.getLast? h
    simpa [Select.rowKey] using hlast
  have hrow : a.row = b.row := by
    have hfind := find?_id hids harow
    rw [hid, find?_id hids hbrow] at hfind
    exact (Option.some.inj hfind).symm
  obtain ⟨row, count⟩ := a
  obtain ⟨row', count'⟩ := b
  obtain rfl : row = row' := hrow
  rw [show count = count' from hacount.trans hbcount.symm]

/-- There is one arrangement of the selected rows by their keys. -/
theorem eq_sortByKey_of_sorted (hids : t.records.Pairwise fun a b => a.id < b.id) {arranged : List ResultRow}
    (hperm : arranged.Perm (t.selected q))
    (hsorted : arranged.Pairwise fun a b => keyLe (q.rowKey a) (q.rowKey b) = true) :
    arranged = sortByKey q.rowKey (t.selected q) := by
  refine List.Perm.eq_of_pairwise ?_ hsorted (sortByKey_sorted q.rowKey _) (hperm.trans (sortByKey_perm _ _).symm)
  intro a b ha hb hab hba
  exact eq_of_rowKey_eq hids (hperm.mem_iff.mp ha) (mem_sortByKey.mp hb) (keyLe_antisymm hab hba)

theorem rowOfTuple?_tuple {s : Statement} (h : s.columns = Sql.recordColumns) (r : ResultRow) :
    rowOfTuple? (s.tuple r) = some r := by
  obtain ⟨⟨id, type, title, excerpt, body, password, published⟩, count⟩ := r
  rw [Statement.tuple, h]
  cases published <;> rfl

theorem mapM_rowOfTuple?_map {s : Statement} (h : s.columns = Sql.recordColumns) (rows : List ResultRow) :
    (rows.map s.tuple).mapM rowOfTuple? = some rows := by
  induction rows with
  | nil => rfl
  | cons r rows ih =>
    rw [List.map_cons, List.mapM_cons, rowOfTuple?_tuple h, ih]
    rfl

/-- A statement that is read with its meaning gives one result. -/
theorem mayGive_iff (hids : t.records.Pairwise fun a b => a.id < b.id) {s : Statement} (h : s.Means q)
    {tuples : List (List Param)} :
    s.MayGive t.metadata t.records tuples ↔ tuples = (q.run t.metadata t.records).map s.tuple := by
  have hrows : s.rows t.metadata t.records = t.selected q := by
    simp only [Statement.rows, selected, h.condition, h.matchCount]
  unfold Statement.MayGive
  simp only [h.order, h.window, hrows]
  constructor
  · rintro ⟨arranged, hperm, hsorted, rfl⟩
    obtain rfl := eq_sortByKey_of_sorted hids hperm hsorted
    rfl
  · rintro rfl
    exact ⟨_, sortByKey_perm _ _, sortByKey_sorted _ _, rfl⟩

/-- The text of a readable statement with its parameters has one answer, which is that of the statement. -/
theorem answers_iff (hids : t.records.Pairwise fun a b => a.id < b.id) (hq : q.IsReadable)
    {answer : Except Error (List Hit)} : t.Answers q.text q.params answer ↔ answer = t.execute q := by
  obtain ⟨s, hs, hmeans⟩ := hq.exists_readStatement
  unfold Answers execute paramsFit
  cases q.params.all paramFits with
  | false => simp
  | true =>
    simp only [if_true, hs, Option.some.injEq, exists_eq_left', hmeans.window, Bool.not_true, Bool.false_eq_true,
      if_false]
    split
    · rfl
    · constructor
      · rintro ⟨tuples, rows, hgive, hrows, rfl⟩
        obtain rfl := (mayGive_iff hids hmeans).mp hgive
        rw [mapM_rowOfTuple?_map hmeans.columns] at hrows
        rw [Option.some.inj hrows]
      · rintro rfl
        exact ⟨_, _, (mayGive_iff hids hmeans).mpr rfl, mapM_rowOfTuple?_map hmeans.columns _, rfl⟩

end Tables

/-- The database of a connection may answer a text with some parameters in some way. -/
def Connection.Answers (c : Connection) (text : String) (params : List Param) (answer : Except Error (List Hit)) : Prop :=
  if c.isOpen then c.tables.Answers text params answer else answer = .error .closed

/-- The statement of a plan, sent as a text with parameters, has one answer on rows with distinct identifiers. -/
theorem Connection.answers_ofPlan_iff {c : Connection} (hids : c.tables.records.Pairwise fun a b => a.id < b.id)
    {plan : Plan} (hplan : plan.IsProper) {metaKeys : List String} {scope : Scope} {window : Option Sql.Window}
    {q : Select} (hq : Sql.ofPlan plan metaKeys scope window = .ok q) {answer : Except Error (List Hit)} :
    c.Answers q.text q.params answer ↔ answer = c.execute q := by
  unfold Connection.Answers Connection.execute Connection.reading
  split
  · exact Tables.answers_iff hids (Sql.isReadable_ofPlan hplan hq)
  · rfl

end TermSearch.Store

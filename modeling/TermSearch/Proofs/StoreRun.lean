import TermSearch.Proofs.SaveHistory

/-! Runs of operations on one connection: saves, whether accepted or refused, mixed with counting, reading, searching,
closing and opening again. Throughout a run the tables hold exactly the drafts that were saved, each under the
identifier that was given for it. -/
namespace TermSearch.Store

open Sql (RecordRow MetaRow Select)
open Calendar (CivilTime)
open Query (Hit)

/-- What a connection is asked for. -/
inductive Operation
  | count
  | get (id : Int)
  | search (q : Select)
  | save (drafts : List Draft)
  | close
  | reopen

/-- What a connection answers. -/
inductive Answer
  | count (result : Except Error Nat)
  | record (result : Except Error (Option Record))
  | hits (result : Except Error (List Hit))
  | ids (result : Except Error (List Int))
  | done

namespace Connection

def perform (c : Connection) : Operation → Connection × Answer
  | .count => (c, .count c.count)
  | .get id => (c, .record (c.get? id))
  | .search q => (c, .hits (c.execute q))
  | .save drafts => ((c.save drafts).1, .ids (c.save drafts).2)
  | .close => (c.close, .done)
  | .reopen => (c.reopen, .done)

/-- The connection behind a list of operations, and what each of them was answered. -/
def run (c : Connection) : List Operation → Connection × List (Operation × Answer)
  | [] => (c, [])
  | op :: ops =>
    let (next, answer) := c.perform op
    let (last, events) := next.run ops
    (last, (op, answer) :: events)

end Connection

/-- The drafts that an operation saved, with the identifiers that were given for them. -/
def savedBy : Operation × Answer → List (Int × Draft)
  | (.save drafts, .ids (.ok ids)) => ids.zip drafts
  | _ => []

/-- The drafts that a run saved, with their identifiers in the order in which they were given. -/
def savedIn (events : List (Operation × Answer)) : List (Int × Draft) := events.flatMap savedBy

namespace Tables

/-- Tables with the rows of some saved drafts, and no other row. The identifiers increase up to the last one given. -/
structure Holds (t : Tables) (saved : List (Int × Draft)) : Prop where
  records : saved.map (fun entry => rowOf? entry.1 entry.2) = t.records.map some
  metadata : t.metadata = saved.flatMap fun entry => metaRows entry.1 entry.2.metadata
  near : ∀ entry ∈ saved, entry.2.published.all CivilTime.hasNearOffset = true
  increasing : saved.Pairwise fun a b => a.1 < b.1
  bounded : ∀ entry ∈ saved, 0 < entry.1 ∧ entry.1 ≤ t.lastId
  nonneg : 0 ≤ t.lastId
  lastFits : fits t.lastId = true

theorem holds_empty : empty.Holds [] where
  records := rfl
  metadata := rfl
  near := by simp
  increasing := .nil
  bounded := by simp
  nonneg := Int.le_refl 0
  lastFits := by decide

variable {t t' : Tables} {saved : List (Int × Draft)}

theorem Holds.insert {d : Draft} {id : Int} (h : t.Holds saved) (hinsert : t.insert d = .ok (t', id)) :
    t'.Holds (saved ++ [(id, d)]) := by
  obtain ⟨row, hrow, ⟨hnear, hfits⟩, rfl, rfl⟩ := insert_eq_ok_iff.mp hinsert
  have hid := rowOf?_id hrow
  have hnonneg := h.nonneg
  refine ⟨?_, ?_, ?_, ?_, ?_, ?_, ?_⟩
  · simp only [List.map_append, List.map_cons, List.map_nil, h.records, hid, hrow]
  · simp only [List.flatMap_append, List.flatMap_cons, List.flatMap_nil, List.append_nil, h.metadata]
  · exact List.forall_mem_append.mpr ⟨h.near, List.forall_mem_singleton.mpr hnear⟩
  · refine List.pairwise_append.mpr ⟨h.increasing, List.pairwise_singleton _ _, ?_⟩
    intro old hold new hnew
    have := h.bounded old hold
    rw [List.mem_singleton.mp hnew, hid]
    omega
  · refine List.forall_mem_append.mpr ⟨fun old hold => ?_, List.forall_mem_singleton.mpr ?_⟩
    · have := h.bounded old hold
      change 0 < old.1 ∧ old.1 ≤ row.id
      omega
    · change 0 < row.id ∧ row.id ≤ row.id
      omega
  · change 0 ≤ row.id
    omega
  · change fits row.id = true
    rw [hid, hfits]

/-- After an accepted batch the tables hold its drafts behind the others. -/
theorem Holds.insertAll {drafts : List Draft} {ids : List Int} (h : t.Holds saved)
    (hinsert : t.insertAll drafts = .ok (t', ids)) : t'.Holds (saved ++ ids.zip drafts) := by
  induction drafts generalizing t saved ids with
  | nil =>
    obtain ⟨rfl, rfl⟩ := Prod.mk.inj (Except.ok.inj hinsert)
    rwa [List.zip_nil_left, List.append_nil]
  | cons d drafts ih =>
    obtain ⟨middle, id, more, hfirst, hrest, rfl⟩ := insertAll_cons_eq_ok_iff.mp hinsert
    have hmore := ih (h.insert hfirst) hrest
    rwa [List.append_assoc, List.singleton_append, ← List.zip_cons_cons] at hmore

theorem length_of_insertAll {drafts : List Draft} {ids : List Int} (h : t.insertAll drafts = .ok (t', ids)) :
    ids.length = drafts.length := by
  induction drafts generalizing t ids with
  | nil =>
    obtain ⟨-, rfl⟩ := Prod.mk.inj (Except.ok.inj h)
    rfl
  | cons d drafts ih =>
    obtain ⟨middle, id, more, -, hrest, rfl⟩ := insertAll_cons_eq_ok_iff.mp h
    rw [List.length_cons, List.length_cons, ih hrest]

end Tables

namespace Connection

variable {c : Connection} {saved : List (Int × Draft)}

/-- A save that gives identifiers was done on an open connection, and inserted the batch. -/
theorem save_eq_ok_iff {drafts : List Draft} {ids : List Int} : (c.save drafts).2 = .ok ids ↔
    c.isOpen = true ∧ ∃ t, c.tables.insertAll drafts = .ok (t, ids) ∧ c.save drafts = ({ c with tables := t }, .ok ids) := by
  rw [save_eq, reading]
  cases c.isOpen with
  | false => simp
  | true =>
    cases c.tables.insertAll drafts with
    | error e => simp
    | ok result =>
      obtain ⟨t, given⟩ := result
      simp [eq_comm]

/-- An operation leaves the tables holding what they held and what it saved. Only a database in memory is lost when
it is opened again. -/
theorem perform_holds (h : c.tables.Holds saved) {op : Operation} (hop : c.path = memoryPath → op ≠ .reopen) :
    (c.perform op).1.path = c.path ∧
      (c.perform op).1.tables.Holds (saved ++ savedBy (op, (c.perform op).2)) := by
  have hkept : c.tables.Holds (saved ++ []) := by rwa [List.append_nil]
  cases op with
  | count | get | search | close => exact ⟨rfl, hkept⟩
  | reopen =>
    have hpath : (c.path == memoryPath) = false := beq_false_of_ne fun hmemory => hop hmemory rfl
    refine ⟨rfl, ?_⟩
    rwa [perform, reopen, openWith, hpath]
  | save drafts =>
    rw [perform]
    cases hresult : (c.save drafts).2 with
    | error e =>
      have hsame : (c.save drafts).1 = c := save_of_error (Prod.ext rfl hresult)
      rw [hsame]
      exact ⟨rfl, hkept⟩
    | ok ids =>
      obtain ⟨-, t, hinsert, hsave⟩ := save_eq_ok_iff.mp hresult
      rw [hsave]
      exact ⟨rfl, h.insertAll hinsert⟩

/-- After a run the tables hold what they held and what the run saved. -/
theorem run_holds (h : c.tables.Holds saved) {ops : List Operation} (hops : c.path = memoryPath → .reopen ∉ ops) :
    (c.run ops).1.tables.Holds (saved ++ savedIn (c.run ops).2) := by
  induction ops generalizing c saved with
  | nil => rwa [run, savedIn, List.flatMap_nil, List.append_nil]
  | cons op ops ih =>
    obtain ⟨hpath, hnext⟩ := perform_holds h fun hmemory heq => hops hmemory (heq ▸ List.mem_cons_self)
    have hrest := ih hnext fun hmemory hmem => hops (hpath ▸ hmemory) (List.mem_cons_of_mem _ hmem)
    rwa [List.append_assoc] at hrest

/-- Every operation leaves tables that hold the drafts of some saves. -/
theorem exists_holds_perform {c : Connection} (h : ∃ saved, c.tables.Holds saved) (op : Operation) :
    ∃ saved, (c.perform op).1.tables.Holds saved := by
  obtain ⟨saved, hsaved⟩ := h
  by_cases hop : op = .reopen
  · subst hop
    rw [perform, reopen, openWith]
    split
    · exact ⟨[], Tables.holds_empty⟩
    · exact ⟨saved, hsaved⟩
  · exact ⟨_, (perform_holds hsaved fun _ => hop).2⟩

theorem exists_holds_run {c : Connection} (h : ∃ saved, c.tables.Holds saved) (ops : List Operation) :
    ∃ saved, (c.run ops).1.tables.Holds saved := by
  induction ops generalizing c with
  | nil => exact h
  | cons op ops ih => exact ih (exists_holds_perform h op)

/-- A save that a run answered with identifiers was one of its operations, and gave as many as there were drafts. -/
theorem length_ids_of_mem_run {ops : List Operation} {drafts : List Draft} {ids : List Int}
    (h : (.save drafts, .ids (.ok ids)) ∈ (c.run ops).2) : .save drafts ∈ ops ∧ ids.length = drafts.length := by
  induction ops generalizing c with
  | nil => cases h
  | cons op ops ih =>
    rcases List.mem_cons.mp h with hfirst | hrest
    · obtain ⟨rfl, hanswer⟩ := Prod.mk.inj hfirst
      obtain ⟨-, t, hinsert, -⟩ := save_eq_ok_iff.mp (Answer.ids.inj hanswer.symm)
      exact ⟨List.mem_cons_self, Tables.length_of_insertAll hinsert⟩
    · obtain ⟨hmem, hlength⟩ := ih hrest
      exact ⟨List.mem_cons_of_mem _ hmem, hlength⟩

/-- Every draft that a run saved was in a batch that it was asked to save. -/
theorem exists_save_of_mem_savedIn {ops : List Operation} {entry : Int × Draft}
    (h : entry ∈ savedIn (c.run ops).2) : ∃ drafts, .save drafts ∈ ops ∧ entry.2 ∈ drafts := by
  obtain ⟨⟨op, answer⟩, hevent, hentry⟩ := List.mem_flatMap.mp h
  unfold savedBy at hentry
  split at hentry
  · rename_i drafts ids heq
    obtain ⟨rfl, rfl⟩ := Prod.mk.inj heq
    exact ⟨drafts, (length_ids_of_mem_run hevent).1, (List.of_mem_zip hentry).2⟩
  · cases hentry

/-- What holds of every draft that is handed in holds of those that a run saved. -/
theorem forall_savedIn {P : Draft → Prop} {ops : List Operation} (h : ∀ drafts, .save drafts ∈ ops → ∀ d ∈ drafts, P d) :
    ∀ entry ∈ savedIn (c.run ops).2, P entry.2 := by
  intro entry hentry
  obtain ⟨drafts, hsave, hmem⟩ := exists_save_of_mem_savedIn hentry
  exact h drafts hsave entry.2 hmem

/-- After a run on a new database the tables hold what the run saved. -/
theorem holds_run_empty {path : String} {ops : List Operation} (hpath : path = memoryPath → .reopen ∉ ops) :
    ((openWith path .empty).run ops).1.tables.Holds (savedIn ((openWith path .empty).run ops).2) :=
  run_holds (c := openWith path .empty) Tables.holds_empty hpath

/-- An open connection reads its tables. -/
theorem reading_of_isOpen {α : Type} (hopen : c.isOpen = true) (f : Tables → Except Error α) :
    c.reading f = f c.tables := if_pos hopen

theorem execute_of_isOpen (hopen : c.isOpen = true) (q : Select) : c.execute q = c.tables.execute q :=
  reading_of_isOpen hopen _

end Connection

end TermSearch.Store

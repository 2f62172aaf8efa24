import TermSearch.Proofs.HeldRows
import TermSearch.Proofs.HitOrder
import TermSearch.Proofs.ReadableTime

/-! Saved drafts that cannot be read back. A save looks at the offset of a time only, while reading asks for a year from
1 to 9999 in universal time. Main statement: a saved draft is read back exactly when its time is readable, and a search
succeeds exactly when all the drafts that it would show are; one other draft makes it fail. -/
namespace TermSearch

/-- A draft whose time can be read back. -/
def Draft.IsReadable (d : Draft) : Prop := ∀ time ∈ d.published, time.IsReadable

/-- A draft whose time is made of parts within their ranges. -/
def Draft.IsDated (d : Draft) : Prop := ∀ time ∈ d.published, time.isValid = true

namespace Store

open Sql (RecordRow ResultRow Select Window ofPlan)
open Query (FieldSet Options Scope)
open Calendar (CivilTime)

/-- It is said that the year 0 or 10000 is out of range. -/
def Error.IsYear (e : Error) : Prop := ∃ year ∈ [0, 10000], e = .unreadableTime ⟨year⟩

/-- There is a result exactly under a condition. Otherwise a year is said to be out of range. -/
def ReadsExactlyIf {α : Type} (condition : Prop) (result : Except Error α) : Prop :=
  ((∃ value, result = .ok value) ↔ condition) ∧ ∀ e, result = .error e → e.IsYear

section ReadsExactlyIf

variable {α β : Type} {condition : Prop}

theorem readsExactlyIf_ok (h : condition) (value : α) : ReadsExactlyIf condition (.ok value : Except Error α) :=
  ⟨⟨fun _ => h, fun _ => ⟨value, rfl⟩⟩, fun e he => by cases he⟩

theorem readsExactlyIf_error (h : ¬ condition) {e : Error} (he : e.IsYear) :
    ReadsExactlyIf condition (.error e : Except Error α) := by
  refine ⟨⟨?_, fun hcondition => absurd hcondition h⟩, fun e' he' => Except.error.inj he' ▸ he⟩
  rintro ⟨value, hvalue⟩
  cases hvalue

theorem ReadsExactlyIf.map {result : Except Error α} (h : ReadsExactlyIf condition result) (f : α → β) :
    ReadsExactlyIf condition (f <$> result) := by
  cases result with
  | ok value => exact readsExactlyIf_ok (h.1.mp ⟨value, rfl⟩) (f value)
  | error e =>
    refine readsExactlyIf_error (fun hcondition => ?_) (h.2 e rfl)
    obtain ⟨value, hvalue⟩ := h.1.mpr hcondition
    cases hvalue

/-- A list is read exactly when each of its items is. -/
theorem ReadsExactlyIf.mapM {condition : α → Prop} {f : α → Except Error β} {xs : List α}
    (h : ∀ x ∈ xs, ReadsExactlyIf (condition x) (f x)) : ReadsExactlyIf (∀ x ∈ xs, condition x) (xs.mapM f) := by
  refine ⟨⟨?_, fun hall => ?_⟩, fun e he => ?_⟩
  · rintro ⟨ys, hys⟩ x hx
    exact (h x hx).1.mp (exists_ok_of_mapM hys hx)
  · obtain ⟨ys, hys, -⟩ := exists_mapM_eq_ok (P := fun _ => True) fun x hx => by
      obtain ⟨y, hy⟩ := (h x hx).1.mpr (hall x hx)
      exact ⟨y, hy, trivial⟩
    exact ⟨ys, hys⟩
  · obtain ⟨x, hx, hfx⟩ := exists_of_mapM_eq_error he
    exact (h x hx).2 e hfx

end ReadsExactlyIf

namespace Tables

variable {t : Tables} {saved : List (Int × Draft)} {entry : Int × Draft} {row : RecordRow}

/-- The row of a draft is read back exactly when the time of the draft is readable. -/
theorem recordOf_row {id : Int} {d : Draft} (hdated : d.IsDated) (hnear : d.published.all CivilTime.hasNearOffset = true)
    (hrow : rowOf? id d = some row) : ReadsExactlyIf d.IsReadable (t.recordOf row) := by
  have hcolumn := (rowOf?_columns hrow).2
  have hrecord : t.recordOf row = (fun published => ⟨some row.id, row.title, row.excerpt, row.body, row.type,
      row.password, published, t.metadataOf row.id⟩) <$> timeOf row := rfl
  -- nothing but the time of a row can fail to be read
  rw [hrecord]
  refine ReadsExactlyIf.map ?_ _
  unfold Draft.IsReadable
  cases hpublished : d.published with
  | none =>
    rw [hpublished] at hcolumn
    rw [timeOf, hcolumn]
    exact readsExactlyIf_ok (by simp) none
  | some time =>
    rw [hpublished] at hcolumn hnear
    have hread := CivilTime.ofSeconds?_wholeSeconds (hdated time hpublished) hnear
    rw [timeOf, hcolumn]
    simp only [Option.map_some, Option.mem_def, Option.some.injEq, forall_eq']
    by_cases hreadable : time.IsReadable
    · rw [if_pos hreadable] at hread
      obtain ⟨kept, hkept⟩ := hread
      rw [hkept]
      exact readsExactlyIf_ok hreadable (some kept)
    · rw [if_neg hreadable] at hread
      obtain ⟨e, hkept, hyear⟩ := hread
      rw [hkept]
      exact readsExactlyIf_error hreadable ⟨e.year, hyear, rfl⟩

/-- Under each identifier one draft was saved. -/
theorem Holds.draft_unique (h : t.Holds saved) (hentry : entry ∈ saved) {d : Draft} (hd : (entry.1, d) ∈ saved) :
    d = entry.2 := by
  have hkeyed : (saved.map Prod.fst).Nodup := h.ids ▸ h.isNumbered.isKeyed
  have hsame := List.inj_on_of_nodup_map hkeyed hd hentry rfl
  exact congrArg Prod.snd hsame

theorem Holds.get?_readable (h : t.Holds saved) (hentry : entry ∈ saved) (hdated : entry.2.IsDated) :
    ((∃ r, t.get? entry.1 = .ok (some r)) ↔ entry.2.IsReadable) ∧ ∀ e, t.get? entry.1 = .error e → e.IsYear := by
  obtain ⟨row, hrow, hrowOf⟩ := h.exists_row hentry
  obtain ⟨hreads, hyear⟩ := (recordOf_row (t := t) hdated (h.near entry hentry) hrowOf).map some
  rw [← rowOf?_id hrowOf, h.get?_row hrow]
  refine ⟨?_, hyear⟩
  rw [← hreads]
  cases t.recordOf row <;> simp [Functor.map, Except.map]

/-- A search is carried out exactly when every draft that it shows is readable. -/
theorem Holds.execute_readable (h : t.Holds saved) (hdated : ∀ entry ∈ saved, entry.2.IsDated) (shown : List ResultRow)
    (hshown : ∀ r ∈ shown, r.row ∈ t.records) :
    ReadsExactlyIf (∀ r ∈ shown, ∀ d, (r.row.id, d) ∈ saved → d.IsReadable) (shown.mapM t.hitOf) := by
  refine ReadsExactlyIf.mapM fun r hr => ?_
  obtain ⟨entry, hentry, hrowOf⟩ := h.exists_entry (hshown r hr)
  have hdraft : (∀ d, (r.row.id, d) ∈ saved → d.IsReadable) ↔ entry.2.IsReadable := by
    rw [rowOf?_id hrowOf]
    constructor
    · exact fun hall => hall _ hentry
    · intro hreadable d hd
      rwa [h.draft_unique hentry hd]
  rw [hdraft]
  exact (recordOf_row (hdated entry hentry) (h.near entry hentry) hrowOf).map _

end Tables

namespace Connection

/-- A draft that was saved is read back exactly when its time is readable, and the search of a query succeeds exactly
when all the saved drafts that it shows are readable. Where they fail, the year 0 or 10000 is out of range. -/
theorem reads_saved_iff {path : String} {ops : List Operation} (hpath : path = memoryPath → .reopen ∉ ops)
    (hdated : ∀ drafts, .save drafts ∈ ops → ∀ d ∈ drafts, d.IsDated) {c : Connection}
    {events : List (Operation × Answer)} (hrun : (openWith path .empty).run ops = (c, events))
    (hopen : c.isOpen = true) :
    (∀ id d, (id, d) ∈ savedIn events → ((∃ r, c.get? id = .ok (some r)) ↔ d.IsReadable) ∧
      ∀ e, c.get? id = .error e → e.IsYear) ∧
    ∀ fields options tokens metaKeys scope window, (∀ w ∈ window, w.IsPage) →
      ∃ plan q, Query.compile fields options tokens = .ok plan ∧ ofPlan plan metaKeys scope window = .ok q ∧
        ((∃ hits, c.execute q = .ok hits) ↔ ∀ shown ∈ q.run c.tables.metadata c.tables.records,
          ∀ d, (shown.row.id, d) ∈ savedIn events → d.IsReadable) ∧
        ∀ e, c.execute q = .error e → e.IsYear := by
  have hholds := holds_run_empty hpath
  have hsaved := forall_savedIn (c := openWith path .empty) hdated
  rw [hrun] at hholds hsaved
  refine ⟨fun id d hentry => ?_, fun fields options tokens metaKeys scope window hwindow => ?_⟩
  · rw [get?, reading_of_isOpen hopen]
    exact hholds.get?_readable hentry (hsaved _ hentry)
  · obtain ⟨plan, hcompile, hplan, -⟩ := Query.exists_compile fields options tokens
    obtain ⟨q, hq⟩ := Sql.exists_ofPlan hplan metaKeys scope window
    refine ⟨plan, q, hcompile, hq, ?_⟩
    rw [execute, reading_of_isOpen hopen, Sql.execute_ofPlan hwindow hq]
    exact hholds.execute_readable hsaved _ fun r hr => Tables.row_mem_of_mem_run hr

/-- A draft at the first midnight of the year 1 in a zone one hour ahead, where it is still the year 0 in universal
time. -/
def dawnDraft : Draft := { earlyDraft with published := some ⟨1, 1, 1, 0, 0, 0, 0, some 3600000000⟩ }

def dawnStore : Connection × Except Error (List Int) :=
  (openWith "records.db" .empty).save [undatedDraft, dawnDraft]

theorem isDated_of_mem_dawnStore : ∀ drafts, .save drafts ∈ [Operation.save [undatedDraft, dawnDraft]] →
    ∀ d ∈ drafts, d.IsDated := by
  intro drafts hdrafts d hd
  obtain rfl := Operation.save.inj (List.mem_singleton.mp hdrafts)
  rcases List.mem_cons.mp hd with rfl | hd
  · intro time htime
    cases htime
  · rw [List.mem_singleton.mp hd]
    intro time htime
    obtain rfl := Option.some.inj htime
    decide

/-- Of the two drafts that are saved the first one is read back only. -/
theorem reads_saved_iff_dawnStore : dawnStore.2 = .ok [1, 2] ∧ (∃ r, dawnStore.1.get? 1 = .ok (some r)) ∧
    ¬ ∃ r, dawnStore.1.get? 2 = .ok (some r) := by
  have hpath : "records.db" ≠ memoryPath := by decide
  have hopen : dawnStore.1.isOpen = true := by decide +kernel
  obtain ⟨hget, -⟩ := reads_saved_iff (fun hmemory => absurd hmemory hpath) isDated_of_mem_dawnStore rfl hopen
  have hundated : undatedDraft.IsReadable := by
    intro time htime
    cases htime
  have hdawn : ¬ dawnDraft.IsReadable := fun h => absurd (h _ rfl) (by decide)
  refine ⟨by decide +kernel, (hget 1 undatedDraft ?_).1.mpr hundated, fun hread => hdawn ((hget 2 dawnDraft ?_).1.mp hread)⟩
  · exact List.mem_cons_self
  · exact List.mem_cons_of_mem _ List.mem_cons_self

/-- Of the rows that a search for the moon selects, one fails. -/
theorem execute_dawnStore : dawnStore.1.execute moonSelect = .error (.unreadableTime ⟨0⟩) := by
  have hopen : dawnStore.1.isOpen = true := by decide +kernel
  have hplan : ofPlan moonPlan titleOnly.metaKeys {} none = .ok moonSelect := rfl
  have hrun : moonSelect.run dawnStore.1.tables.metadata dawnStore.1.tables.records =
      sortByKey moonSelect.rowKey (dawnStore.1.tables.selected moonSelect) := rfl
  have hrows : ∀ shown ∈ dawnStore.1.tables.selected moonSelect, dawnStore.1.tables.hitOf shown =
      if shown.row.id = 1 then .ok ⟨{ undatedDraft with id := some 1 }, 0⟩ else .error (.unreadableTime ⟨0⟩) := by
    decide +kernel
  rw [execute, reading_of_isOpen hopen, Sql.execute_ofPlan (by simp) hplan, hrun]
  cases hhits : (sortByKey moonSelect.rowKey (dawnStore.1.tables.selected moonSelect)).mapM
      dawnStore.1.tables.hitOf with
  | ok hits =>
    obtain ⟨shown, hshown, hid⟩ : ∃ shown ∈ dawnStore.1.tables.selected moonSelect, shown.row.id ≠ 1 := by
      decide +kernel
    obtain ⟨hit, hhit⟩ := exists_ok_of_mapM hhits (mem_sortByKey.mpr hshown)
    rw [hrows shown hshown, if_neg hid] at hhit
    cases hhit
  | error e =>
    obtain ⟨shown, hshown, hhit⟩ := exists_of_mapM_eq_error hhits
    rw [hrows shown (mem_sortByKey.mp hshown)] at hhit
    split at hhit
    · cases hhit
    · rw [Except.error.inj hhit]

/-- Both drafts are saved, but the second one cannot be read, and a search for both of them fails. -/
theorem exists_unreadable_saved : dawnDraft.IsDated ∧ dawnStore.2 = .ok [1, 2] ∧
    dawnStore.1.get? 2 = .error (.unreadableTime ⟨0⟩) ∧ ∃ plan q, Query.compile titleOnly {} ["moon"] = .ok plan ∧
      ofPlan plan titleOnly.metaKeys {} none = .ok q ∧ dawnStore.1.execute q = .error (.unreadableTime ⟨0⟩) := by
  refine ⟨isDated_of_mem_dawnStore _ List.mem_cons_self _ (List.mem_cons_of_mem _ List.mem_cons_self),
    by decide +kernel, by decide +kernel, moonPlan, moonSelect, compile_moon, rfl, execute_dawnStore⟩

end Connection

end Store

end TermSearch

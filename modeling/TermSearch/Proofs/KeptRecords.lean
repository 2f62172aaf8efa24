import TermSearch.Proofs.CalendarDate
import TermSearch.Proofs.HeldRows
import TermSearch.Proofs.RegroupedMetadata

/-! Records that are read back as they were saved. Main statement: after any run of operations on a database, in which
batches are saved or refused, every saved draft is read back under its own identifier, which no other draft ever had,
and a search finds the records that reading gives. -/
namespace TermSearch.Store

open Sql (RecordRow Select)
open Calendar (CivilTime)

/-- A time is read back at the same instant in universal time. -/
def KeptTime (time kept : CivilTime) : Prop :=
  kept.isValid = true ∧ kept.offset = some 0 ∧ kept.microseconds = time.microseconds

/-- A record is the saved draft under its identifier. Keys of its metadata without a value have disappeared. -/
structure IsKept (id : Int) (d : Draft) (r : Record) : Prop where
  id : r.id = some id
  type : d.type = some r.type
  title : d.title = some r.title
  excerpt : d.excerpt = some r.excerpt
  body : d.body = some r.body
  password : d.password = some r.password
  published : Option.Rel KeptTime d.published r.published
  metadata : r.metadata = d.metadata.filter fun entry => !entry.2.isEmpty

/-- A draft that is read back unchanged: its time is on a whole second of the calendar, and no key of its metadata
occurs twice. -/
structure IsPlain (d : Draft) : Prop where
  timely : IsTimely d
  keys : (Assoc.keys d.metadata).Nodup

namespace Tables

variable {t : Tables} {saved : List (Int × Draft)} {entry : Int × Draft} {row : RecordRow} {d : Draft} {id : Int}

/-- A time on a whole second is read back from its row. -/
theorem exists_timeOf (h : rowOf? id d = some row) (htimely : IsTimely d) :
    ∃ published, timeOf row = .ok published ∧ Option.Rel KeptTime d.published published := by
  have hcolumn := (rowOf?_columns h).2
  cases hpublished : d.published with
  | none =>
    rw [hpublished] at hcolumn
    exact ⟨none, by rw [timeOf, hcolumn]; rfl, .none⟩
  | some time =>
    obtain ⟨seconds, hin, hmicro⟩ := htimely time hpublished
    obtain ⟨kept, hkept, hsame⟩ := CivilTime.ofSeconds?_of_inCalendar hin
    obtain ⟨hvalid, hoffset⟩ := CivilTime.ofSeconds?_isValid hin hkept
    rw [hpublished, Option.map_some, CivilTime.wholeSeconds_of_whole hin hmicro] at hcolumn
    refine ⟨some kept, ?_, .some ⟨hvalid, hoffset, hsame.trans hmicro.symm⟩⟩
    rw [timeOf, hcolumn]
    simp only [hkept]
    rfl

/-- The row of a plain draft is read back as this draft. -/
theorem Holds.exists_recordOf (h : t.Holds saved) (hentry : entry ∈ saved) (hplain : IsPlain entry.2)
    (hrow : rowOf? entry.1 entry.2 = some row) : ∃ r, t.recordOf row = .ok r ∧ IsKept entry.1 entry.2 r := by
  obtain ⟨published, htime, hkept⟩ := exists_timeOf hrow hplain.timely
  obtain ⟨htype, htitle, hexcerpt, hbody, hpassword⟩ := rowOf?_texts hrow
  have hid := rowOf?_id hrow
  refine ⟨_, recordOf_eq_ok_iff.mpr ⟨published, htime, rfl⟩, congrArg some hid, htype, htitle, hexcerpt, hbody,
    hpassword, hkept, ?_⟩
  rw [hid, metadataOf_eq hplain.keys (h.filter_metadata hentry)]

theorem Holds.exists_get? (h : t.Holds saved) (hentry : entry ∈ saved) (hplain : IsPlain entry.2) :
    ∃ r, t.get? entry.1 = .ok (some r) ∧ IsKept entry.1 entry.2 r := by
  obtain ⟨row, hrow, hrowOf⟩ := h.exists_row hentry
  obtain ⟨r, hr, hkept⟩ := h.exists_recordOf hentry hplain hrowOf
  refine ⟨r, ?_, hkept⟩
  rw [← rowOf?_id hrowOf, h.get?_row hrow, hr]
  rfl

/-- A hit carries the record that is read under its identifier. -/
theorem Holds.get?_hit (h : t.Holds saved) {q : Select} {hits : List Query.Hit} (hhits : t.execute q = .ok hits)
    {hit : Query.Hit} (hhit : hit ∈ hits) :
    ∃ id r, hit.record = r.toDraft ∧ hit.record.id = some id ∧ t.get? id = .ok (some r) := by
  unfold execute at hhits
  split at hhits
  · cases hhits
  · split at hhits
    · cases hhits
    · obtain ⟨shown, hshown, hhitOf⟩ := exists_of_mem_mapM hhits hhit
      have hrow := row_mem_of_mem_run hshown
      rw [hitOf] at hhitOf
      cases hrecord : t.recordOf shown.row with
      | error e => simp [hrecord, bind, Except.bind] at hhitOf
      | ok r =>
        rw [hrecord] at hhitOf
        obtain rfl := Except.ok.inj hhitOf
        obtain ⟨published, -, rfl⟩ := recordOf_eq_ok_iff.mp hrecord
        refine ⟨shown.row.id, _, rfl, rfl, ?_⟩
        rw [h.get?_row hrow, hrecord]
        rfl

end Tables

namespace Connection

/-- Whatever is asked of a database, saves that are refused and openings of its file among it, every draft that was
saved is read back, under an identifier of its own. The identifiers increase from save to save and within each batch,
the store counts them, no other identifier finds a record, and each hit of a search carries the record that is read
under its identifier. -/
theorem run_keeps_saved {path : String} {ops : List Operation} (hpath : path = memoryPath → .reopen ∉ ops)
    (hplain : ∀ drafts, .save drafts ∈ ops → ∀ d ∈ drafts, IsPlain d) {c : Connection}
    {events : List (Operation × Answer)} (hrun : (openWith path .empty).run ops = (c, events)) :
    (∀ drafts ids, (.save drafts, .ids (.ok ids)) ∈ events → ids.length = drafts.length) ∧
    ((savedIn events).map Prod.fst).Pairwise (· < ·) ∧
    (c.isOpen = true →
      c.count = .ok (savedIn events).length ∧
      (∀ id d, (id, d) ∈ savedIn events → ∃ r, c.get? id = .ok (some r) ∧ IsKept id d r) ∧
      (∀ id, fits id = true → id ∉ (savedIn events).map Prod.fst → c.get? id = .ok none) ∧
      ∀ q hits, c.execute q = .ok hits → ∀ hit ∈ hits,
        ∃ id r, hit.record = r.toDraft ∧ hit.record.id = some id ∧ c.get? id = .ok (some r)) := by
  have hholds := holds_run_empty hpath
  have hsaved := forall_savedIn (c := openWith path .empty) hplain
  have hlength : ∀ drafts ids, (.save drafts, .ids (.ok ids)) ∈ ((openWith path .empty).run ops).2 →
      ids.length = drafts.length := fun drafts ids hevent => (length_ids_of_mem_run hevent).2
  rw [hrun] at hholds hsaved hlength
  refine ⟨hlength, List.pairwise_map.mpr hholds.increasing, fun hopen => ?_⟩
  refine ⟨?_, fun id d hentry => ?_, fun id hfits hid => ?_, fun q hits hhits hit hhit => ?_⟩
  · rw [count, reading_of_isOpen hopen, hholds.count_eq]
  · rw [get?, reading_of_isOpen hopen]
    exact hholds.exists_get? hentry (hsaved _ hentry)
  · rw [get?, reading_of_isOpen hopen]
    exact hholds.get?_of_not_mem hfits hid
  · rw [execute, reading_of_isOpen hopen] at hhits
    obtain ⟨id, r, hrecord, hid, hget⟩ := hholds.get?_hit hhits hhit
    refine ⟨id, r, hrecord, hid, ?_⟩
    rw [get?, reading_of_isOpen hopen, hget]

/-- A draft on a comet, seen an hour before midnight in the zone that is two hours behind, or at no known time. One key
of its metadata has no value. -/
def cometDraft (body : Option String) (seen : Bool) : Draft where
  id := none
  title := some "Comet"
  excerpt := some ""
  body := body
  type := some "post"
  password := some ""
  published := if seen then some ⟨1969, 12, 31, 23, 0, 0, 0, some (-7200000000)⟩ else none
  metadata := [("tail", ["dust", "gas"]), ("name", []), ("seen", ["dusk"])]

theorem isPlain_cometDraft (body : Option String) (seen : Bool) : IsPlain (cometDraft body seen) where
  timely := by
    intro time htime
    cases seen with
    | false => cases htime
    | true =>
      obtain rfl := Option.some.inj htime
      exact ⟨3600, by decide, by decide⟩
  keys := by
    have hkeys : (Assoc.keys [("tail", ["dust", "gas"]), ("name", []), ("seen", ["dusk"])]).Nodup := by decide
    exact hkeys

/-- Saves of comets into a file, one of them refused, around a search and an opening of the file. -/
def cometRun : List Operation :=
  [.save [cometDraft (some "bright") true, cometDraft (some "faint") false],
    .save [cometDraft (some "lost") true, cometDraft none true], .get 1, .close, .reopen,
    .save [cometDraft (some "new") false]]

theorem run_keeps_saved_cometRun : ∃ c events, (openWith "sky.db" .empty).run cometRun = (c, events) ∧
    (savedIn events).map Prod.fst = [1, 2, 3] ∧ c.count = .ok 3 ∧ c.get? 4 = .ok none ∧
    ∃ r, c.get? 1 = .ok (some r) ∧ IsKept 1 (cometDraft (some "bright") true) r := by
  have hplain : ∀ drafts, .save drafts ∈ cometRun → ∀ d ∈ drafts, IsPlain d := by
    intro drafts hdrafts d hd
    simp only [cometRun, List.mem_cons, Operation.save.injEq, reduceCtorEq, List.not_mem_nil, or_false,
      false_or] at hdrafts
    rcases hdrafts with rfl | rfl | rfl <;> simp only [List.mem_cons, List.not_mem_nil, or_false] at hd
    · rcases hd with rfl | rfl <;> exact isPlain_cometDraft _ _
    · rcases hd with rfl | rfl <;> exact isPlain_cometDraft _ _
    · rw [hd]
      exact isPlain_cometDraft _ _
  have hpath : "sky.db" ≠ memoryPath := by decide
  obtain ⟨-, -, hopen⟩ := run_keeps_saved (fun hmemory => absurd hmemory hpath) hplain rfl
  obtain ⟨-, hget, hother, -⟩ := hopen (by decide +kernel)
  refine ⟨_, _, rfl, by decide +kernel, by decide +kernel, hother 4 (by decide) (by decide +kernel), hget 1 _ ?_⟩
  exact List.mem_of_mem_head? (by rfl)

end Connection

end TermSearch.Store

import TermSearch.Proofs.StoreRun

/-! Refused batches. The statements of a batch are carried out up to the draft that is refused, so that its earlier
records, their metadata and their identifiers are in the current tables by then. Main statement: whatever is asked of
the connection afterwards is answered as if the batch had not been handed in. -/
namespace TermSearch.Store

open Calendar (CivilTime)

namespace Tables

variable {t t' : Tables} {d : Draft} {drafts : List Draft} {e : Error}

/-- A draft has no row exactly when it is no record, because one of its texts is missing. -/
theorem rowOf?_eq_none_iff (id : Int) : rowOf? id d = none ↔ d.toRecord? = none := by
  obtain ⟨_, title, excerpt, body, type, password, _, _⟩ := d
  cases title <;> cases excerpt <;> cases body <;> cases type <;> cases password <;> simp [rowOf?, Draft.toRecord?]

/-- A draft is refused exactly for a far offset, for want of an identifier, or for a missing text. -/
theorem exists_error_iff : (∃ e, t.insert d = .error e) ↔
    d.published.all CivilTime.hasNearOffset = false ∨ fits (t.lastId + 1) = false ∨ d.toRecord? = none := by
  rw [← rowOf?_eq_none_iff (t.lastId + 1)]
  unfold insert
  cases d.published.all CivilTime.hasNearOffset <;> cases fits (t.lastId + 1) <;>
    cases rowOf? (t.lastId + 1) d <;> simp

/-- An accepted batch adds one record for each draft, and takes as many identifiers. -/
theorem count_insertAll {ids : List Int} (h : t.insertAll drafts = .ok (t', ids)) :
    t'.count = t.count + drafts.length ∧ t'.lastId = t.lastId + drafts.length := by
  induction drafts generalizing t ids with
  | nil =>
    obtain ⟨rfl, -⟩ := Prod.mk.inj (Except.ok.inj h)
    simp
  | cons d drafts ih =>
    obtain ⟨middle, id, more, hinsert, hrest, -⟩ := insertAll_cons_eq_ok_iff.mp h
    obtain ⟨hcount, hid, hlast⟩ := count_insert hinsert
    obtain ⟨hcounts, hlasts⟩ := ih hrest
    rw [List.length_cons]
    omega

/-- Every draft of an accepted batch is a record. -/
theorem isSome_of_insertAll {ids : List Int} (h : t.insertAll drafts = .ok (t', ids)) (hd : d ∈ drafts) :
    d.toRecord?.isSome = true := by
  induction drafts generalizing t ids with
  | nil => cases hd
  | cons first drafts ih =>
    obtain ⟨middle, id, more, hinsert, hrest, -⟩ := insertAll_cons_eq_ok_iff.mp h
    rcases List.mem_cons.mp hd with rfl | hmem
    · refine Option.isSome_iff_ne_none.mpr fun hmissing => ?_
      obtain ⟨e, herror⟩ := exists_error_iff.mpr (.inr (.inr hmissing))
      rw [hinsert] at herror
      cases herror
    · exact ih hrest hmem

theorem insertAll_append_error {accepted rest : List Draft} {ids : List Int}
    (haccepted : t.insertAll accepted = .ok (t', ids)) (hrefused : t'.insert d = .error e) :
    t.insertAll (accepted ++ d :: rest) = .error e := by
  induction accepted generalizing t ids with
  | nil =>
    obtain ⟨rfl, -⟩ := Prod.mk.inj (Except.ok.inj haccepted)
    exact insertAll_cons_eq_error_iff.mpr (.inl hrefused)
  | cons first accepted ih =>
    obtain ⟨middle, id, more, hinsert, hmore, -⟩ := insertAll_cons_eq_ok_iff.mp haccepted
    exact insertAll_cons_eq_error_iff.mpr (.inr ⟨middle, id, hinsert, ih hmore⟩)

end Tables

namespace Connection

variable {c : Connection} {drafts : List Draft} {e : Error}

theorem save_eq_error_iff (hopen : c.isOpen = true) :
    (c.save drafts).2 = .error e ↔ c.tables.insertAll drafts = .error e := by
  rw [save_eq, reading, if_pos hopen]
  cases c.tables.insertAll drafts <;> simp

/-- A save is refused exactly when it meets a draft that is refused behind the drafts that were accepted before. -/
theorem save_refused_iff (hopen : c.isOpen = true) : (c.save drafts).2 = .error e ↔
    ∃ accepted refused rest t ids, drafts = accepted ++ refused :: rest ∧
      c.tables.insertAll accepted = .ok (t, ids) ∧ t.insert refused = .error e := by
  rw [save_eq_error_iff hopen]
  constructor
  · intro h
    obtain ⟨accepted, refused, rest, t, ids, hdrafts, haccepted, hrefused, -⟩ :=
      Transaction.addDrafts_of_error (Transaction.start c.tables) h
    exact ⟨accepted, refused, rest, t, ids, hdrafts, haccepted, hrefused⟩
  · rintro ⟨accepted, refused, rest, t, ids, rfl, haccepted, hrefused⟩
    exact Tables.insertAll_append_error haccepted hrefused

/-- A batch with a missing text is refused, wherever the draft stands and whatever the store holds. -/
theorem exists_save_error {d : Draft} (hd : d ∈ drafts) (hmissing : d.toRecord? = none) :
    ∃ e, (c.save drafts).2 = .error e := by
  cases hsave : (c.save drafts).2 with
  | error e => exact ⟨e, rfl⟩
  | ok ids =>
    obtain ⟨-, t, hinsert, -⟩ := save_eq_ok_iff.mp hsave
    have hrecord := Tables.isSome_of_insertAll hinsert hd
    rw [hmissing] at hrecord
    cases hrecord

/-- A refused batch leaves nothing behind. Its statements had added the drafts before the refused one to the current
tables, with their metadata and their identifiers; but the connection answers all later operations, the identifiers
of later saves among them, as it does without the batch. -/
theorem answers_after_refused_save (hopen : c.isOpen = true) (h : (c.save drafts).2 = .error e) :
    (∃ accepted refused rest t ids, drafts = accepted ++ refused :: rest ∧
      c.tables.insertAll accepted = .ok (t, ids) ∧ t.insert refused = .error e ∧
      (Transaction.start c.tables).addDrafts drafts = (⟨c.tables, t⟩, .error e) ∧
      t.count = c.tables.count + accepted.length ∧ t.lastId = c.tables.lastId + accepted.length) ∧
    ∀ ops, ((c.save drafts).1.run ops).2 = (c.run ops).2 := by
  have hinsert := (save_eq_error_iff hopen).mp h
  obtain ⟨accepted, refused, rest, t, ids, hdrafts, haccepted, hrefused, hrun⟩ :=
    Transaction.addDrafts_of_error (Transaction.start c.tables) hinsert
  obtain ⟨hcount, hlast⟩ := Tables.count_insertAll haccepted
  have hsame : (c.save drafts).1 = c := save_of_error (Prod.ext rfl h)
  refine ⟨⟨accepted, refused, rest, t, ids, hdrafts, haccepted, hrefused, hrun, hcount, hlast⟩, fun ops => ?_⟩
  rw [hsame]

/-- A draft on a tide, where the text may be missing. -/
def tideDraft (body : Option String) : Draft where
  id := none
  title := some "Tide"
  excerpt := some ""
  body := body
  type := some "post"
  password := some ""
  published := none
  metadata := [("place", ["bay", "harbour"])]

/-- A connection to a store with one record. -/
def tideStore : Connection := ((openWith "records.db" .empty).save [tideDraft (some "high")]).1

/-- A batch whose last draft has no text. -/
def tideBatch : List Draft := [tideDraft (some "low"), tideDraft (some "neap"), tideDraft none]

/-- The first two drafts stood in the tables, under the identifiers 2 and 3, when the last one was refused. The next
save gives the identifier 2. -/
theorem answers_after_refused_save_tideStore :
    tideStore.isOpen = true ∧ (tideStore.save tideBatch).2 = .error .missingText ∧
    ((Transaction.start tideStore.tables).addDrafts tideBatch).1.current.count = 3 ∧
    ((Transaction.start tideStore.tables).addDrafts tideBatch).1.current.lastId = 3 ∧
    ((tideStore.save tideBatch).1.run [.count, .get 2, .save [tideDraft (some "spring")]]).2 =
      [(.count, .count (.ok 1)), (.get 2, .record (.ok none)), (.save [tideDraft (some "spring")], .ids (.ok [2]))] := by
  have hopen : tideStore.isOpen = true := by decide +kernel
  have hsave : (tideStore.save tideBatch).2 = .error .missingText := by decide +kernel
  obtain ⟨-, hops⟩ := answers_after_refused_save hopen hsave
  refine ⟨hopen, hsave, by decide +kernel, by decide +kernel, ?_⟩
  rw [hops]
  rfl

end Connection

end TermSearch.Store

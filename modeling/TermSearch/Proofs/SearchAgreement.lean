import TermSearch.Proofs.LegiblePlan
import TermSearch.Proofs.MatchingHits

/-! A store answers a query with the hits that a search on the records read back from it finds, whatever batches
were saved into it, as long as the database reads the searched texts and the terms of the query as they stand. -/
namespace TermSearch.Store

open Sql (RecordRow Select Expr IsLegiblePlan ofPlan)
open Query (FieldSet Options Plan Scope Hit)

/-- A query is run both ways on a store, given with the identifiers of its records: the plan of the query, the records
that the identifiers find, the hits of the statement of the plan, and the hits of the search on those records. The
statement is sent as a text with parameters, and the hits are the only answer to them. -/
structure SearchedBothWays (saved : Connection × List Int) (fields : FieldSet) (options : Options)
    (tokens : List String) (scope : Scope) (plan : Plan) (stored : List Record) (hits found : List Hit) : Prop where
  compiled : Query.compile fields options tokens = .ok plan
  readBack : saved.2.mapM saved.1.get? = .ok (stored.map some)
  executed : ∃ q, ofPlan plan fields.metaKeys scope none = .ok q ∧ saved.1.execute q = .ok hits ∧
    ∀ answer, saved.1.Answers q.text q.params answer ↔ answer = .ok hits
  searched : plan.search fields.metaKeys scope (stored.map Record.toDraft) = .ok found

/-- On a sound store the statement gives the hits of the selected rows, in the order of their keys. -/
theorem searchedBothWays {c : Connection} {ids : List Int} (hopen : c.isOpen = true) (hsound : c.tables.IsSound)
    (hids : c.tables.records.map RecordRow.id = ids) {fields : FieldSet} {options : Options} {tokens : List String}
    {scope : Scope} {plan : Plan} {q : Select} (hcompile : Query.compile fields options tokens = .ok plan)
    (hplan : plan.IsProper) (hq : ofPlan plan fields.metaKeys scope none = .ok q) {found : List Hit}
    (hfound : plan.search fields.metaKeys scope ((c.tables.records.map c.tables.recordAt).map Record.toDraft) =
      .ok found) :
    SearchedBothWays (c, ids) fields options tokens scope plan (c.tables.records.map c.tables.recordAt)
      ((sortByKey q.rowKey (c.tables.selected q)).map c.tables.hitAt) found := by
  have hreading {α : Type} (f : Tables → Except Error α) : c.reading f = f c.tables := if_pos hopen
  have hexecute : c.execute q = .ok ((sortByKey q.rowKey (c.tables.selected q)).map c.tables.hitAt) := by
    rw [Connection.execute, hreading]
    exact execute_eq hsound hq
  refine ⟨hcompile, ?_, ⟨q, hq, hexecute, fun answer => ?_⟩, hfound⟩
  · have hrows : ∀ row ∈ c.tables.records,
        (c.get? ∘ RecordRow.id) row = .ok ((some ∘ c.tables.recordAt) row) := by
      intro row hrow
      rw [Function.comp_apply, Connection.get?, hreading]
      exact hsound.get? hrow
    rw [← hids, List.mapM_map, mapM_eq_ok_map hrows, List.map_map]
  · rw [← hexecute]
    exact Connection.answers_ofPlan_iff hsound.increasing hplan hq

/-- A draft of which the database reads every searched text as it stands: title, excerpt, body and metadata values. -/
structure IsLegibleDraft (d : Draft) : Prop where
  title : ∀ s ∈ d.title, Sql.IsLegible s
  excerpt : ∀ s ∈ d.excerpt, Sql.IsLegible s
  body : ∀ s ∈ d.body, Sql.IsLegible s
  metadata : ∀ entry ∈ d.metadata, ∀ value ∈ entry.2, Sql.IsLegible value

theorem Tables.IsLegible.insert {t t' : Tables} {d : Draft} {id : Int} (ht : t.IsLegible) (hd : IsLegibleDraft d)
    (h : t.insert d = .ok (t', id)) : t'.IsLegible := by
  obtain ⟨row, hrow, -, rfl, -⟩ := insert_eq_ok_iff.mp h
  obtain ⟨-, htitle, hexcerpt, hbody, -⟩ := rowOf?_texts hrow
  constructor
  · intro r hr
    rcases List.mem_append.mp hr with hold | hnew
    · exact ht.records r hold
    · rw [List.mem_singleton.mp hnew]
      exact ⟨hd.title _ htitle, hd.excerpt _ hexcerpt, hd.body _ hbody⟩
  · intro m hm
    rcases List.mem_append.mp hm with hold | hnew
    · exact ht.metadata m hold
    · obtain ⟨entry, hentry, hm⟩ := List.mem_flatMap.mp hnew
      obtain ⟨value, hvalue, rfl⟩ := List.mem_map.mp hm
      exact hd.metadata entry hentry value hvalue

theorem Connection.isLegible_saveAll (path : String) {batches : List (List Draft)}
    (hlegible : ∀ batch ∈ batches, ∀ d ∈ batch, IsLegibleDraft d) :
    ((Connection.openWith path .empty).saveAll batches).1.tables.IsLegible :=
  Connection.saveAll_preserves (P := Tables.IsLegible)
    (fun batch hbatch d hd _ _ _ ht h => ht.insert (hlegible batch hbatch d hd) h)
    ⟨by simp [Connection.openWith, Tables.empty], by simp [Connection.openWith, Tables.empty]⟩

/-- After any saves of legible drafts every query with legible terms can be run both ways. Both ways give the hits of
the selected rows, each in its order. -/
theorem exists_searchedBothWays (path : String) {batches : List (List Draft)}
    (htimely : ∀ batch ∈ batches, ∀ d ∈ batch, IsTimely d) (hlegible : ∀ batch ∈ batches, ∀ d ∈ batch, IsLegibleDraft d)
    (fields : FieldSet) (options : Options) {tokens : List String}
    (hterms : ∀ term ∈ Query.termsOf options.marker tokens, Sql.IsLegible term.text) (scope : Scope) :
    ∃ t plan q, Tables.IsSound t ∧ t.IsLegible ∧ IsLegiblePlan plan ∧
      ofPlan plan fields.metaKeys scope none = .ok q ∧
      SearchedBothWays ((Connection.openWith path .empty).saveAll batches) fields options tokens scope plan
        (t.records.map t.recordAt) (sortByKey (storeKey plan) ((t.selected q).map t.hitAt))
        (sortByKey plan.hitKey ((t.selected q).map t.hitAt)) := by
  obtain ⟨hopen, hsound, hids⟩ :=
    Connection.saveAll_sound (c := Connection.openWith path .empty) rfl Tables.isSound_empty htimely
  have htables := Connection.isLegible_saveAll path hlegible
  obtain ⟨plan, hcompile, hproper, -⟩ := Query.exists_compile fields options tokens
  obtain ⟨q, hq⟩ := Sql.exists_ofPlan hproper fields.metaKeys scope none
  have hplan := Sql.isLegiblePlan_of_compile hterms hcompile
  refine ⟨_, plan, q, hsound, htables, hplan, hq, ?_⟩
  rw [← map_hitAt_sortByKey hsound htables hplan hq]
  exact searchedBothWays hopen hsound hids hcompile hproper hq (search_eq hsound htables hplan hq)

theorem ids_selected (t : Tables) (q : Select) : ((t.selected q).map t.hitAt).map (fun hit => hit.record.id) =
    (t.records.filter fun row => Expr.allNonzero t.metadata row q.conditions).map fun row => some row.id := by
  rw [Tables.selected, List.map_map, List.map_map]
  rfl

theorem nodup_ids_selected {t : Tables} (hsound : t.IsSound) (q : Select) :
    (((t.selected q).map t.hitAt).map fun hit => hit.record.id).Nodup := by
  rw [ids_selected]
  refine List.pairwise_map.mpr ((hsound.increasing.filter _).imp ?_)
  intro a b hlt heq
  exact Int.ne_of_lt hlt (Option.some.inj heq)

/-- In what a statement selects, a row stands once if it satisfies the conditions, and else not at all. -/
theorem count_selected {t : Tables} (hsound : t.IsSound) (q : Select) {row : RecordRow} (hrow : row ∈ t.records) :
    (((t.selected q).map t.hitAt).map fun hit => hit.record.id).count (some row.id) =
      if Expr.allNonzero t.metadata row q.conditions then 1 else 0 := by
  have hmem : some row.id ∈ ((t.selected q).map t.hitAt).map (fun hit => hit.record.id) ↔
      Expr.allNonzero t.metadata row q.conditions = true := by
    rw [ids_selected, List.mem_map]
    constructor
    · rintro ⟨other, hother, hid⟩
      obtain ⟨hother, hselected⟩ := List.mem_filter.mp hother
      have hfind := Tables.find?_id hsound.increasing hother
      rw [Option.some.inj hid, Tables.find?_id hsound.increasing hrow] at hfind
      rw [Option.some.inj hfind]
      exact hselected
    · exact fun hselected => ⟨row, List.mem_filter.mpr ⟨hrow, hselected⟩, rfl⟩
  rw [(nodup_ids_selected hsound q).count]
  simp only [hmem]

/-- The hits of a statement are those of the search on the records read back, with the same ranks. Each record
that may be returned and satisfies the plan is found once, however many metadata values it has. -/
theorem execute_perm_search (path : String) (batches : List (List Draft))
    (htimely : ∀ batch ∈ batches, ∀ d ∈ batch, IsTimely d) (hlegible : ∀ batch ∈ batches, ∀ d ∈ batch, IsLegibleDraft d)
    (fields : FieldSet) (options : Options) (tokens : List String)
    (hterms : ∀ term ∈ Query.termsOf options.marker tokens, Sql.IsLegible term.text) (scope : Scope) :
    ∃ plan stored hits found,
      SearchedBothWays ((Connection.openWith path .empty).saveAll batches) fields options tokens scope
        plan stored hits found ∧
      hits.Perm found ∧
      (∀ hit ∈ hits, ∃ record ∈ stored, hit.record = record.toDraft) ∧
      ∀ record ∈ stored, ∃ b, plan.predicate.eval fields.metaKeys record.toDraft = .ok b ∧
        (hits.map fun hit => hit.record.id).count record.id = (if scope.admits record.toDraft && b then 1 else 0) ∧
        (found.map fun hit => hit.record.id).count record.id = if scope.admits record.toDraft && b then 1 else 0 := by
  obtain ⟨t, plan, q, hsound, htables, hplan, hq, hboth⟩ :=
    exists_searchedBothWays path htimely hlegible fields options hterms scope
  have hhits := sortByKey_perm (storeKey plan) ((t.selected q).map t.hitAt)
  have hfound := sortByKey_perm plan.hitKey ((t.selected q).map t.hitAt)
  refine ⟨plan, _, _, _, hboth, hhits.trans hfound.symm, ?_, ?_⟩
  · intro hit hhit
    obtain ⟨r, hr, rfl⟩ := List.mem_map.mp (mem_sortByKey.mp hhit)
    obtain ⟨⟨hrow, -⟩, -⟩ := Tables.mem_selected.mp hr
    exact ⟨t.recordAt r.row, List.mem_map_of_mem hrow, rfl⟩
  · intro record hrecord
    obtain ⟨row, hrow, rfl⟩ := List.mem_map.mp hrecord
    obtain ⟨b, hb⟩ := hplan.isProper.predicate.eval_isOk fields.metaKeys (t.recordAt row)
    have hselects := Sql.selects_iff hplan hq (hsound.recordOf hrow) (htables.recordAt hrow)
    rw [Query.Predicate.Holds, hb, Except.ok.injEq, ← Bool.and_eq_true, ← Bool.eq_iff_iff] at hselects
    have hcount := count_selected hsound q hrow
    rw [hselects] at hcount
    refine ⟨b, hb, ?_, ?_⟩
    · rw [(hhits.map fun hit => hit.record.id).count_eq]
      exact hcount
    · rw [(hfound.map fun hit => hit.record.id).count_eq]
      exact hcount

/-- A draft of 1960 with two metadata values. -/
def sampleDraft : Draft where
  id := none
  title := some "Moon"
  excerpt := some ""
  body := some "the Moon"
  type := some "post"
  password := some ""
  published := some ⟨1960, 5, 17, 12, 0, 0, 0, some 3600000000⟩
  metadata := [("topic", ["moon"]), ("place", ["half moon bay"])]

theorem isTimely_sampleDraft : IsTimely sampleDraft := by
  intro time htime
  obtain rfl := Option.some.inj htime
  exact ⟨-303742800, by decide, by decide⟩

/-- Whether every character of the searched texts of a draft is legible. -/
def hasLegibleTexts (d : Draft) : Bool :=
  (d.title.toList ++ d.excerpt.toList ++ d.body.toList ++ d.metadata.flatMap Prod.snd).all fun s =>
    s.toList.all Sql.isLegible

theorem isLegibleDraft_of_hasLegibleTexts {d : Draft} (h : hasLegibleTexts d = true) : IsLegibleDraft d := by
  have htexts : ∀ s ∈ d.title.toList ++ d.excerpt.toList ++ d.body.toList ++ d.metadata.flatMap Prod.snd,
      Sql.IsLegible s := Sql.forall_isLegible_of_all h
  simp only [List.mem_append, Option.mem_toList, List.mem_flatMap] at htexts
  exact ⟨fun s hs => htexts s (.inl (.inl (.inl hs))), fun s hs => htexts s (.inl (.inl (.inr hs))),
    fun s hs => htexts s (.inl (.inr hs)), fun entry hentry value hvalue => htexts value (.inr ⟨entry, hentry, hvalue⟩)⟩

theorem execute_perm_search_sample : ((∀ batch ∈ [[sampleDraft]], ∀ d ∈ batch, IsTimely d) ∧
      (∀ batch ∈ [[sampleDraft]], ∀ d ∈ batch, IsLegibleDraft d) ∧
      ∀ term ∈ Query.termsOf "-" ["moon", "-sun"], Sql.IsLegible term.text) ∧
    ∃ plan stored hits found,
      SearchedBothWays ((Connection.openWith "records.db" .empty).saveAll [[sampleDraft]])
        ⟨[.title, .metadata], [], by decide, by decide⟩ {} ["moon", "-sun"] {} plan stored hits found ∧
      hits.Perm found ∧
      (∀ hit ∈ hits, ∃ record ∈ stored, hit.record = record.toDraft) ∧
      ∀ record ∈ stored, ∃ b, plan.predicate.eval [] record.toDraft = .ok b ∧
        (hits.map fun hit => hit.record.id).count record.id =
          (if Scope.admits {} record.toDraft && b then 1 else 0) ∧
        (found.map fun hit => hit.record.id).count record.id =
          if Scope.admits {} record.toDraft && b then 1 else 0 := by
  have htimely : ∀ batch ∈ [[sampleDraft]], ∀ d ∈ batch, IsTimely d := by
    simpa using isTimely_sampleDraft
  have hlegible : ∀ batch ∈ [[sampleDraft]], ∀ d ∈ batch, IsLegibleDraft d := by
    simpa using isLegibleDraft_of_hasLegibleTexts (d := sampleDraft) (by decide +kernel)
  have hterms : ∀ term ∈ Query.termsOf "-" ["moon", "-sun"], Sql.IsLegible term.text :=
    List.forall_mem_map.mp (Sql.forall_isLegible_of_all (by decide +kernel))
  exact ⟨⟨htimely, hlegible, hterms⟩,
    execute_perm_search "records.db" [[sampleDraft]] htimely hlegible _ {} ["moon", "-sun"] hterms {}⟩

section Misreading

variable (term title : String)

def titleOnly : FieldSet := ⟨[.title], [], by decide, by decide⟩

def titledDraft : Draft := { sampleDraft with title := some title }

theorem isTimely_titledDraft : IsTimely (titledDraft title) := isTimely_sampleDraft

/-- A store into which one record is saved, with the identifier that it gets. -/
def titledStore : Connection × List Int := (Connection.openWith "records.db" .empty).saveAll [[titledDraft title]]

/-- The plan of a search for one term in titles. -/
def termPlan : Plan := ⟨.all [.any [.test ⟨.known .title, .containing term⟩]], none, [.containing term]⟩

def termSelect : Select where
  matchCount := .number 0
  conditions := [.group (.conj [.group (.disj [.group (.like .title (Sql.likeOperand (.containing term)))])]),
    .isEmptyText .password]
  titleFirst := [Sql.likeOperand (.containing term)]
  byMatchCount := false
  window := none

theorem compile_eq_termPlan {term : String} (h : Query.termsOf Query.defaultMarker [term] = [⟨term, false⟩]) :
    Query.compile titleOnly {} [term] = .ok (termPlan term) := by
  rw [Query.compile, h]
  rfl

/-- A store with one record and a query for one term, which the statement finds and the search does not. -/
def IsMisread : Prop := ∃ plan stored hits found,
  SearchedBothWays (titledStore title) titleOnly {} [term] {} plan stored hits found ∧ ¬ hits.Perm found

theorem isMisread {term title : String} (hcompile : Query.compile titleOnly {} [term] = .ok (termPlan term))
    (hfound : (termPlan term).search titleOnly.metaKeys {} (((titledStore title).1.tables.records.map
      (titledStore title).1.tables.recordAt).map Record.toDraft) = .ok [])
    (hone : ((titledStore title).1.tables.selected (termSelect term)).length = 1) : IsMisread term title := by
  have htimely : ∀ batch ∈ [[titledDraft title]], ∀ d ∈ batch, IsTimely d := by
    simpa using isTimely_titledDraft title
  obtain ⟨hopen, hsound, hids⟩ :=
    Connection.saveAll_sound (c := Connection.openWith "records.db" .empty) rfl Tables.isSound_empty htimely
  obtain ⟨plan, hcompile', hproper, -⟩ := Query.exists_compile titleOnly {} [term]
  obtain rfl := Except.ok.inj (hcompile.symm.trans hcompile')
  have hq : ofPlan (termPlan term) titleOnly.metaKeys {} none = .ok (termSelect term) := rfl
  refine ⟨_, _, _, [], searchedBothWays hopen hsound hids hcompile hproper hq hfound, fun hperm => ?_⟩
  have hlength := hperm.length_eq
  rw [List.length_map, (sortByKey_perm _ _).length_eq] at hlength
  cases hone.symm.trans hlength

/-- The database reads a term up to its null character, and takes two characters of a term or a title for the
replacement character; it then finds a record that the search in memory does not find. -/
theorem exists_hits_not_perm : IsMisread "moon\x00x" "Full Moon" ∧ IsMisread "moon\ufffex" "moon\ufffdx" ∧
    IsMisread "moon\ufffdx" "moon\uffffx" := by
  have hnull : Query.compile titleOnly {} ["moon\x00x"] = .ok (termPlan "moon\x00x") :=
    compile_eq_termPlan (by decide +kernel)
  have hterm : Query.compile titleOnly {} ["moon\ufffex"] = .ok (termPlan "moon\ufffex") :=
    compile_eq_termPlan (by decide +kernel)
  have htitle : Query.compile titleOnly {} ["moon\ufffdx"] = .ok (termPlan "moon\ufffdx") :=
    compile_eq_termPlan (by decide +kernel)
  exact ⟨isMisread hnull (by decide +kernel) (by decide +kernel), isMisread hterm (by decide +kernel) (by decide +kernel),
    isMisread htitle (by decide +kernel) (by decide +kernel)⟩

end Misreading

end TermSearch.Store

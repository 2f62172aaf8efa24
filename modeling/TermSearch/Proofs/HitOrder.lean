import Mathlib.Data.List.Nodup
import TermSearch.Proofs.SearchAgreement

/-! The orders of a store and of the search in memory. They differ on hits without a time: the store places them
behind every hit with a time, and the search in memory counts them as published at the start of 1970. -/
namespace TermSearch.Store

open Sql (Select)
open Query (FieldSet Options Plan Scope Hit)
open Calendar (CivilTime)

/-- A hit with a time and one without on whose order the searches disagree: neither comes first by its title or its
rank, and the time lies before the start of 1970, or at it with the identifiers the other way round. -/
def Disputed (plan : Plan) (dated undated : Hit) : Prop :=
  plan.titleMisses dated.record.title = plan.titleMisses undated.record.title ∧ dated.rank = undated.rank ∧
    undated.record.published = none ∧ ∃ time ∈ dated.record.published,
      time.instant < 0 ∨ time.instant = 0 ∧ undated.record.id.getD 0 < dated.record.id.getD 0

/-- Times and identifiers compare alike in both keys, but for a hit with a time and one without. -/
theorem keyLe_undated_iff {x y : Option Int} {i j : Int} (hne : i ≠ j) :
    (keyLe [if x.isNone then 1 else 0, -x.getD 0, i] [if y.isNone then 1 else 0, -y.getD 0, j] = true ↔
      keyLe [-x.getD 0, i] [-y.getD 0, j] = true) ↔
    ¬ ((y = none ∧ ∃ time ∈ x, time < 0 ∨ time = 0 ∧ j < i) ∨
      (x = none ∧ ∃ time ∈ y, time < 0 ∨ time = 0 ∧ i < j)) := by
  simp only [keyLe_cons_iff]
  cases x with
  | none =>
    cases y with
    | none => simp
    | some time =>
      -- one hit without a time is behind in the store, and at the start of 1970 in memory
      simp only [Option.isNone_none, Option.isNone_some, Option.getD_none, Option.getD_some, Option.mem_def,
        Option.some.injEq, exists_eq_left', reduceCtorEq, false_and, true_and, false_or, if_true,
        Bool.false_eq_true, if_false, keyLe, and_true]
      omega
  | some time =>
    cases y with
    | none =>
      simp only [Option.isNone_none, Option.isNone_some, Option.getD_none, Option.getD_some, Option.mem_def,
        Option.some.injEq, exists_eq_left', reduceCtorEq, false_and, true_and, or_false, if_true,
        Bool.false_eq_true, if_false, keyLe, and_true]
      omega
    | some other => simp

theorem disputed_iff {plan : Plan} {x y : Hit} : Disputed plan x y ↔
    (plan.titleMisses x.record.title = plan.titleMisses y.record.title ∧ x.rank = y.rank) ∧
      y.record.published.map CivilTime.instant = none ∧
      ∃ time ∈ x.record.published.map CivilTime.instant,
        time < 0 ∨ time = 0 ∧ y.record.id.getD 0 < x.record.id.getD 0 := by
  rw [Disputed, Option.map_eq_none_iff, and_assoc]
  cases x.record.published <;> simp

/-- The keys of two hits compare alike unless the hits are disputed. -/
theorem keyLe_storeKey_iff_keyLe_hitKey (plan : Plan) {x y : Hit}
    (hne : x.record.id.getD 0 ≠ y.record.id.getD 0) :
    (keyLe (storeKey plan x) (storeKey plan y) = true ↔ keyLe (plan.hitKey x) (plan.hitKey y) = true) ↔
      ¬ (Disputed plan x y ∨ Disputed plan y x) := by
  have htimes := keyLe_undated_iff (x := x.record.published.map CivilTime.instant)
    (y := y.record.published.map CivilTime.instant) hne
  rw [Option.isNone_map, Option.isNone_map] at htimes
  rw [storeKey, storeKey, Plan.hitKey, Plan.hitKey, disputed_iff, disputed_iff]
  by_cases hmisses : plan.titleMisses x.record.title = plan.titleMisses y.record.title
  · by_cases hrank : x.rank = y.rank
    · rw [hmisses, hrank]
      simp only [keyLe_cons_self, true_and, and_self]
      exact htimes
    · have hback : ¬ y.rank = x.rank := fun h => hrank h.symm
      have hneg : ¬ -x.rank = -y.rank := by omega
      rw [hmisses, keyLe_cons_self, keyLe_cons_self]
      simp only [keyLe_cons_iff, hneg, hrank, hback, false_and, and_false, or_self, not_false_eq_true]
  · have hback : ¬ plan.titleMisses y.record.title = plan.titleMisses x.record.title := fun h => hmisses h.symm
    have hint : ¬ (if plan.titleMisses x.record.title then (1 : Int) else 0) =
        if plan.titleMisses y.record.title then 1 else 0 := by
      cases hx : plan.titleMisses x.record.title <;> cases hy : plan.titleMisses y.record.title <;> simp_all
    simp only [keyLe_cons_iff, hint, hmisses, hback, false_and, or_self, not_false_eq_true]

/-- The orders of two hits of a store agree unless the hits are disputed. -/
theorem sublist_iff_sublist_iff {t : Tables} (hsound : t.IsSound) (q : Select) (plan : Plan) {x y : Hit}
    (hx : x ∈ (t.selected q).map t.hitAt) (hy : y ∈ (t.selected q).map t.hitAt) :
    ([x, y].Sublist (sortByKey (storeKey plan) ((t.selected q).map t.hitAt)) ↔
      [x, y].Sublist (sortByKey plan.hitKey ((t.selected q).map t.hitAt))) ↔
        ¬ (Disputed plan x y ∨ Disputed plan y x) := by
  have hids := nodup_ids_selected hsound q
  have hsome : ∀ hit ∈ (t.selected q).map t.hitAt, hit.record.id = some (hit.record.id.getD 0) := by
    intro hit hhit
    obtain ⟨r, -, rfl⟩ := List.mem_map.mp hhit
    rfl
  by_cases hid : x.record.id.getD 0 = y.record.id.getD 0
  · -- a hit does not stand before itself
    obtain rfl : x = y := by
      refine List.inj_on_of_nodup_map hids hx hy ?_
      rw [hsome x hx, hsome y hy, hid]
    have honce (key : Hit → List Int) : ¬ [x, x].Sublist (sortByKey key ((t.selected q).map t.hitAt)) :=
      List.nodup_iff_sublist.mp ((sortByKey_perm key _).nodup_iff.mpr (List.Nodup.of_map _ hids)) x
    have hself : ¬ Disputed plan x x := by
      rintro ⟨-, -, hnone, time, htime, -⟩
      rw [hnone] at htime
      cases htime
    simp only [honce, hself, or_self, not_false_eq_true]
  · have hstore : storeKey plan x ≠ storeKey plan y := fun h =>
      hid (congrArg (fun key => key.getD 4 0) h)
    have hsearch : plan.hitKey x ≠ plan.hitKey y := fun h =>
      hid (congrArg (fun key => key.getD 3 0) h)
    rw [pair_sublist_sortByKey_iff hx hy hstore, pair_sublist_sortByKey_iff hx hy hsearch]
    exact keyLe_storeKey_iff_keyLe_hitKey plan hid

/-- Two hits stand in the same order in a store and in the search on the records read back, unless one has a time
not after the start of 1970 and the other has none. -/
theorem same_order_iff (path : String) (batches : List (List Draft))
    (htimely : ∀ batch ∈ batches, ∀ d ∈ batch, IsTimely d) (hlegible : ∀ batch ∈ batches, ∀ d ∈ batch, IsLegibleDraft d)
    (fields : FieldSet) (options : Options) (tokens : List String)
    (hterms : ∀ term ∈ Query.termsOf options.marker tokens, Sql.IsLegible term.text) (scope : Scope) :
    ∃ plan stored hits found,
      SearchedBothWays ((Connection.openWith path .empty).saveAll batches) fields options tokens scope
        plan stored hits found ∧
      ∀ x ∈ hits, ∀ y ∈ hits, (([x, y].Sublist hits ↔ [x, y].Sublist found) ↔
        ¬ (Disputed plan x y ∨ Disputed plan y x)) := by
  obtain ⟨t, plan, q, hsound, -, -, -, hboth⟩ :=
    exists_searchedBothWays path htimely hlegible fields options hterms scope
  exact ⟨plan, _, _, _, hboth, fun x hx y hy =>
    sublist_iff_sublist_iff hsound q plan (mem_sortByKey.mp hx) (mem_sortByKey.mp hy)⟩

/-- A draft of 1960. -/
def earlyDraft : Draft where
  id := none
  title := some "Moon"
  excerpt := some ""
  body := some ""
  type := some "post"
  password := some ""
  published := some ⟨1960, 1, 1, 0, 0, 0, 0, some 0⟩
  metadata := []

/-- A draft without a time. -/
def undatedDraft : Draft := { earlyDraft with published := none }

def earlyStore : Connection × List Int :=
  (Connection.openWith "records.db" .empty).saveAll [[earlyDraft, undatedDraft]]

theorem isTimely_earlyDraft : IsTimely earlyDraft := by
  intro time htime
  obtain rfl := Option.some.inj htime
  exact ⟨-315619200, by decide, by decide⟩

theorem isTimely_undatedDraft : IsTimely undatedDraft := by
  intro time htime
  cases htime

theorem isTimely_of_mem_early_undated : ∀ batch ∈ [[earlyDraft, undatedDraft]], ∀ d ∈ batch, IsTimely d := by
  intro batch hbatch d hd
  obtain rfl := List.mem_singleton.mp hbatch
  rcases List.mem_cons.mp hd with rfl | hd
  · exact isTimely_earlyDraft
  · rw [List.mem_singleton.mp hd]
    exact isTimely_undatedDraft

theorem isLegibleDraft_of_mem_early_undated :
    ∀ batch ∈ [[earlyDraft, undatedDraft]], ∀ d ∈ batch, IsLegibleDraft d := by
  intro batch hbatch d hd
  refine isLegibleDraft_of_hasLegibleTexts ?_
  obtain rfl := List.mem_singleton.mp hbatch
  exact List.all_eq_true.mp (show [earlyDraft, undatedDraft].all hasLegibleTexts = true by decide +kernel) d hd

theorem isLegible_moon : ∀ term ∈ Query.termsOf "-" ["moon"], Sql.IsLegible term.text :=
  List.forall_mem_map.mp (Sql.forall_isLegible_of_all (by decide +kernel))

theorem same_order_iff_early_undated : ((∀ batch ∈ [[earlyDraft, undatedDraft]], ∀ d ∈ batch, IsTimely d) ∧
      (∀ batch ∈ [[earlyDraft, undatedDraft]], ∀ d ∈ batch, IsLegibleDraft d) ∧
      ∀ term ∈ Query.termsOf "-" ["moon"], Sql.IsLegible term.text) ∧
    ∃ plan stored hits found,
      SearchedBothWays earlyStore titleOnly {} ["moon"] {} plan stored hits found ∧
      ∀ x ∈ hits, ∀ y ∈ hits, (([x, y].Sublist hits ↔ [x, y].Sublist found) ↔
        ¬ (Disputed plan x y ∨ Disputed plan y x)) :=
  ⟨⟨isTimely_of_mem_early_undated, isLegibleDraft_of_mem_early_undated, isLegible_moon⟩,
    same_order_iff "records.db" _ isTimely_of_mem_early_undated isLegibleDraft_of_mem_early_undated _ {} ["moon"]
      isLegible_moon {}⟩

def moonPlan : Plan := termPlan "moon"

def moonSelect : Select := termSelect "moon"

theorem compile_moon : Query.compile titleOnly {} ["moon"] = .ok moonPlan := compile_eq_termPlan (by decide +kernel)

/-- The store places the draft of 1960 before the one without a time, and the search in memory behind it. -/
theorem exists_different_order : ∃ plan stored hits found,
    SearchedBothWays earlyStore titleOnly {} ["moon"] {} plan stored hits found ∧
    ∃ x ∈ hits, ∃ y ∈ hits, [x, y].Sublist hits ∧ ¬ [x, y].Sublist found := by
  obtain ⟨hopen, hsound, hids⟩ : earlyStore.1.isOpen = true ∧ earlyStore.1.tables.IsSound ∧
      earlyStore.1.tables.records.map Sql.RecordRow.id = earlyStore.2 :=
    Connection.saveAll_sound (c := Connection.openWith "records.db" .empty) rfl Tables.isSound_empty
      isTimely_of_mem_early_undated
  have hlegible : earlyStore.1.tables.IsLegible :=
    Connection.isLegible_saveAll "records.db" isLegibleDraft_of_mem_early_undated
  have hplan : Sql.IsLegiblePlan moonPlan := by
    refine Sql.isLegiblePlan_of_compile ?_ compile_moon
    exact isLegible_moon
  have hq : Sql.ofPlan moonPlan titleOnly.metaKeys {} none = .ok moonSelect := rfl
  have hboth := searchedBothWays hopen hsound hids compile_moon hplan.isProper hq
    (search_eq hsound hlegible hplan hq)
  rw [map_hitAt_sortByKey hsound hlegible hplan hq] at hboth
  have hearly : (⟨{ earlyDraft with id := some 1 }, 0⟩ : Hit) ∈
      (earlyStore.1.tables.selected moonSelect).map earlyStore.1.tables.hitAt := by decide +kernel
  have hundated : (⟨{ undatedDraft with id := some 2 }, 0⟩ : Hit) ∈
      (earlyStore.1.tables.selected moonSelect).map earlyStore.1.tables.hitAt := by decide +kernel
  refine ⟨moonPlan, _, _, _, hboth, _, mem_sortByKey.mpr hearly, _, mem_sortByKey.mpr hundated, ?_, ?_⟩
  · rw [pair_sublist_sortByKey_iff hearly hundated (by decide +kernel)]
    decide +kernel
  · rw [pair_sublist_sortByKey_iff hearly hundated (by decide +kernel)]
    decide +kernel

end TermSearch.Store

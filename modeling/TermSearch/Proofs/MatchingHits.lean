import TermSearch.Proofs.StatementAnswer

/-! The hits of a plan among the rows of a sound store. Where the database reads all texts as they stand, the statement
of the plan and the search on the records read back find the same hits; each puts them into an order of its own. -/
namespace TermSearch.Store

open Sql (RecordRow ResultRow Select Expr IsLegible IsLegiblePlan IsLegibleRecord ofPlan likeOperand)
open Query (Plan Scope Hit Fault)
open Calendar (CivilTime)

/-- The key by which the statement of a plan orders its hits: a hit without a time stands behind those with one. -/
def storeKey (plan : Plan) (hit : Hit) : List Int :=
  [if plan.titleMisses hit.record.title then 1 else 0,
   -hit.rank,
   if hit.record.published.isNone then 1 else 0,
   -((hit.record.published.map CivilTime.instant).getD 0),
   hit.record.id.getD 0]

namespace Tables

/-- The hit of a row of a result, whose record is read as `recordAt` does. -/
def hitAt (t : Tables) (r : ResultRow) : Hit := ⟨(t.recordAt r.row).toDraft, r.matchCount⟩

/-- Tables of which the database reads every searched text as it stands: titles, excerpts, bodies, metadata values. -/
structure IsLegible (t : Tables) : Prop where
  records : ∀ row ∈ t.records, Sql.IsLegible row.title ∧ Sql.IsLegible row.excerpt ∧ Sql.IsLegible row.body
  metadata : ∀ m ∈ t.metadata, Sql.IsLegible m.value

/-- The records that are read from legible tables are legible. -/
theorem IsLegible.recordAt {t : Tables} (h : t.IsLegible) {row : RecordRow} (hrow : row ∈ t.records) :
    IsLegibleRecord (t.recordAt row) := by
  obtain ⟨htitle, hexcerpt, hbody⟩ := h.records row hrow
  intro field s hs
  cases field with
  | title => exact List.mem_singleton.mp hs ▸ htitle
  | excerpt => exact List.mem_singleton.mp hs ▸ hexcerpt
  | body => exact List.mem_singleton.mp hs ▸ hbody
  | metadata =>
    obtain ⟨m, hm, -, -, rfl⟩ := mem_metadataTexts_metadataOf.mp hs
    exact h.metadata m hm

end Tables

variable {t : Tables} {plan : Plan} {metaKeys : List String} {scope : Scope} {q : Select}

theorem titleMisses_some (hplan : IsLegiblePlan plan) {title : String} (htitle : Sql.IsLegible title) :
    plan.titleMisses (some title) = (!plan.titlePatterns.isEmpty &&
      !(plan.titlePatterns.map likeOperand).any fun operand => Sql.like operand title) := by
  have hlike : plan.titlePatterns.any (fun p => Sql.like (likeOperand p) title) =
      plan.titlePatterns.any fun p => p.accepts title := by
    rw [Bool.eq_iff_iff, List.any_eq_true, List.any_eq_true]
    exact exists_congr fun p => and_congr_right fun hp => by
      rw [Sql.like_likeOperand (hplan.titlePatterns p hp) htitle]
  rw [Plan.titleMisses, Option.any_some, List.any_map, Function.comp_def, hlike]

/-- Times compare alike as whole seconds of rows and as instants of records. -/
theorem keyLe_times {a b : RecordRow} (hsound : t.IsSound) (ha : a ∈ t.records) (hb : b ∈ t.records) :
    keyLe (Select.timeKey a.published ++ [a.id]) (Select.timeKey b.published ++ [b.id]) =
    keyLe [if (t.recordAt a).published.isNone then 1 else 0,
        -(((t.recordAt a).published.map CivilTime.instant).getD 0), a.id]
      [if (t.recordAt b).published.isNone then 1 else 0,
        -(((t.recordAt b).published.map CivilTime.instant).getD 0), b.id] := by
  have hnone : ∀ r ∈ t.records, (t.recordAt r).published.isNone = r.published.isNone := by
    intro r hr
    rw [← Option.isNone_map (f := CivilTime.instant), hsound.instant_recordAt hr, Option.isNone_map]
  rw [hsound.instant_recordAt ha, hsound.instant_recordAt hb, hnone a ha, hnone b hb]
  cases a.published with
  | none => cases b.published <;> simp [Select.timeKey, keyLe]
  | some x =>
    cases b.published with
    | none => simp [Select.timeKey, keyLe]
    | some y =>
      have hscale := keyLe_scale (k := ((Nat.pow 2 52 : Nat) : Int)) (by decide) (-x) (-y) [a.id] [b.id]
      rw [Int.neg_mul, Int.neg_mul] at hscale
      exact (keyLe_cons_congr hscale 0 0).symm

/-- Rows compare by the key of the statement as their hits do by `storeKey`. -/
theorem keyLe_rowKey (hsound : t.IsSound) (hlegible : t.IsLegible) (hplan : IsLegiblePlan plan)
    (hq : ofPlan plan metaKeys scope none = .ok q) :
    ∀ a ∈ t.selected q, ∀ b ∈ t.selected q, keyLe (q.rowKey a) (q.rowKey b) =
      keyLe (storeKey plan (t.hitAt a)) (storeKey plan (t.hitAt b)) := by
  intro a ha b hb
  obtain ⟨⟨harow, -⟩, hacount⟩ := Tables.mem_selected.mp ha
  obtain ⟨⟨hbrow, -⟩, hbcount⟩ := Tables.mem_selected.mp hb
  have htimes := keyLe_times hsound harow hbrow
  obtain ⟨counter, condition, hcounter, -, rfl⟩ := Sql.ofPlan_eq_ok_iff.mp hq
  -- without ranking every row counts zero
  have hranks : keyLe ((if plan.ranking.isSome then [-a.matchCount] else []) ++
        (Select.timeKey a.row.published ++ [a.row.id]))
      ((if plan.ranking.isSome then [-b.matchCount] else []) ++ (Select.timeKey b.row.published ++ [b.row.id])) =
      keyLe (-a.matchCount :: (storeKey plan (t.hitAt a)).drop 2)
        (-b.matchCount :: (storeKey plan (t.hitAt b)).drop 2) := by
    cases hranking : plan.ranking with
    | some tests => exact keyLe_cons_congr htimes _ _
    | none =>
      rw [hranking, Sql.ofRanking, Except.ok.injEq] at hcounter
      have hzero : a.matchCount = b.matchCount := by
        rw [hacount, hbcount, ← hcounter]
        rfl
      rw [hzero, keyLe_cons_self]
      exact htimes
  have hmisses (r : ResultRow) (hr : r.row ∈ t.records) : plan.titleMisses (t.hitAt r).record.title =
      (!plan.titlePatterns.isEmpty &&
        !(plan.titlePatterns.map likeOperand).any fun operand => Sql.like operand r.row.title) :=
    titleMisses_some hplan (hlegible.records r.row hr).1
  rw [storeKey, storeKey, hmisses a harow, hmisses b hbrow]
  unfold Select.rowKey
  simp only [List.isEmpty_map, List.append_assoc]
  cases plan.titlePatterns.isEmpty with
  | true => exact hranks.trans (keyLe_cons_self 0 _ _).symm
  | false =>
    refine (keyLe_cons_congr hranks _ _).trans ?_
    cases (plan.titlePatterns.map likeOperand).any fun operand => Sql.like operand a.row.title <;>
      cases (plan.titlePatterns.map likeOperand).any fun operand => Sql.like operand b.row.title <;> rfl

/-- The rows that a statement selects can be read. -/
theorem hitOf_of_mem_selected (hsound : t.IsSound) {r : ResultRow} (hr : r ∈ t.selected q) :
    t.hitOf r = .ok (t.hitAt r) := by
  obtain ⟨⟨hrow, -⟩, -⟩ := Tables.mem_selected.mp hr
  rw [Tables.hitOf, hsound.recordOf hrow]
  rfl

/-- The statement of a plan finds the hits of the selected rows, ordered by the keys of the rows. -/
theorem execute_eq (hsound : t.IsSound) (hq : ofPlan plan metaKeys scope none = .ok q) :
    t.execute q = .ok ((sortByKey q.rowKey (t.selected q)).map t.hitAt) := by
  have hrun : q.run t.metadata t.records = sortByKey q.rowKey (t.selected q) := by
    rw [Select.run, Sql.window_ofPlan hq]
    rfl
  have hhits : ∀ r ∈ sortByKey q.rowKey (t.selected q), t.hitOf r = .ok (t.hitAt r) := fun r hr =>
    hitOf_of_mem_selected hsound (mem_sortByKey.mp hr)
  rw [Sql.execute_ofPlan (by simp) hq, hrun, mapM_eq_ok_map hhits]

/-- Where all texts are legible, this is the order by `storeKey`. -/
theorem map_hitAt_sortByKey (hsound : t.IsSound) (hlegible : t.IsLegible) (hplan : IsLegiblePlan plan)
    (hq : ofPlan plan metaKeys scope none = .ok q) :
    (sortByKey q.rowKey (t.selected q)).map t.hitAt = sortByKey (storeKey plan) ((t.selected q).map t.hitAt) :=
  map_sortByKey (keyLe_rowKey hsound hlegible hplan hq)

/-- The plan finds a stored record exactly when its statement selects the row, and with the same rank. -/
theorem hit?_recordAt (hsound : t.IsSound) (hlegible : t.IsLegible) (hplan : IsLegiblePlan plan)
    (hq : ofPlan plan metaKeys scope none = .ok q) {row : RecordRow} (hrow : row ∈ t.records) :
    plan.hit? metaKeys scope (t.recordAt row).toDraft =
      .ok (if Expr.allNonzero t.metadata row q.conditions then
        some (t.hitAt ⟨row, q.matchCount.value t.metadata row⟩) else none) := by
  have hrecord := hsound.recordOf hrow
  have hselects := Sql.selects_iff hplan hq hrecord (hlegible.recordAt hrow)
  obtain ⟨n, hscore, hcount⟩ := Sql.score_eq_matchCount hplan hq hrecord (hlegible.recordAt hrow)
  obtain ⟨b, hb⟩ := hplan.isProper.predicate.eval_isOk metaKeys (t.recordAt row)
  rw [Query.Predicate.Holds, hb, Except.ok.injEq] at hselects
  have hboth : Expr.allNonzero t.metadata row q.conditions = (scope.admits (t.recordAt row).toDraft && b) := by
    rw [Bool.eq_iff_iff, hselects, Bool.and_eq_true]
  rw [Plan.hit?_eq hb hscore, hboth, hcount]
  rfl

/-- The search on the records read back finds the same hits, ordered by `hitKey`. -/
theorem search_eq (hsound : t.IsSound) (hlegible : t.IsLegible) (hplan : IsLegiblePlan plan)
    (hq : ofPlan plan metaKeys scope none = .ok q) :
    plan.search metaKeys scope ((t.records.map t.recordAt).map Record.toDraft) =
      .ok (sortByKey plan.hitKey ((t.selected q).map t.hitAt)) := by
  have hsearch := Plan.search_map_eq (fun row hrow => hit?_recordAt hsound hlegible hplan hq hrow) fun _ _ => rfl
  rw [List.map_map, Tables.selected, List.map_map]
  exact hsearch

end TermSearch.Store

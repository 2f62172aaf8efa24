import Mathlib.Data.List.Nodup
import TermSearch.Proofs.CompiledPlan
import TermSearch.Proofs.KeyOrder
import TermSearch.Proofs.ReadableTime

/-! What a search in a list of records finds, and in which order. Every record that the search may return and that
satisfies the plan is found once. Hits whose title matches stand first, then those of a higher rank, the newer ones and
those with the smaller identifier. This separates any two hits, so the order in which the records are given makes no
difference. -/
namespace TermSearch

namespace Calendar.CivilTime

/-- A valid time whose instant is on a whole second. -/
structure IsOnSecond (t : CivilTime) : Prop where
  valid : t.isValid = true
  near : t.hasNearOffset = true
  second : (1000000 : Int) ∣ t.microseconds

/-- A time on a whole second is kept without rounding. -/
theorem IsOnSecond.instant_eq {t : CivilTime} (h : t.IsOnSecond) :
    t.instant * 1000000 = t.microseconds * (Nat.pow 2 52 : Nat) := by
  obtain ⟨seconds, hseconds⟩ : ∃ seconds, t.microseconds = seconds * 1000000 :=
    h.second.imp fun _ heq => heq.trans (Int.mul_comm _ _)
  have hbounds := microseconds_bounds h.valid h.near
  rw [hseconds] at hbounds
  have hsmall : seconds.natAbs < 9007199254740992 := by omega
  rw [instant, hseconds, roundedSeconds_of_whole hsmall, Int.mul_right_comm]

end Calendar.CivilTime

open Calendar (CivilTime)

/-- Records with identifiers of their own and times on whole seconds. -/
structure IsCatalogue (records : List Record) : Prop where
  identified : ∀ r ∈ records, r.id.isSome = true
  distinct : (records.map Record.id).Nodup
  onSecond : ∀ r ∈ records, ∀ t ∈ r.published, t.IsOnSecond

theorem IsCatalogue.perm {records others : List Record} (h : IsCatalogue records) (hperm : others.Perm records) :
    IsCatalogue others where
  identified := by
    intro r hr
    exact h.identified r (hperm.mem_iff.mp hr)
  distinct := (hperm.map Record.id).nodup_iff.mpr h.distinct
  onSecond := by
    intro r hr
    exact h.onSecond r (hperm.mem_iff.mp hr)

/-- The microseconds from the start of 1970 at which a record was published. A time without an offset is one in universal
time, and a record without a time counts as published at the start of 1970. -/
def Draft.moment (d : Draft) : Int := (d.published.map CivilTime.microseconds).getD 0

theorem Draft.instant_mul_eq {d : Draft} (h : ∀ t ∈ d.published, t.IsOnSecond) :
    (d.published.map CivilTime.instant).getD 0 * 1000000 = d.moment * (Nat.pow 2 52 : Nat) := by
  unfold Draft.moment
  cases htime : d.published with
  | none => simp
  | some t => exact (h t htime).instant_eq

/-- Records on whole seconds compare by their instants as by their moments. -/
theorem Draft.instant_lt_iff {a b : Draft} (ha : ∀ t ∈ a.published, t.IsOnSecond)
    (hb : ∀ t ∈ b.published, t.IsOnSecond) :
    (a.published.map CivilTime.instant).getD 0 < (b.published.map CivilTime.instant).getD 0 ↔ a.moment < b.moment := by
  rw [← Int.mul_lt_mul_right (by decide : (0 : Int) < 1000000), Draft.instant_mul_eq ha, Draft.instant_mul_eq hb]
  exact Int.mul_lt_mul_right (by decide)

theorem Draft.instant_eq_iff {a b : Draft} (ha : ∀ t ∈ a.published, t.IsOnSecond)
    (hb : ∀ t ∈ b.published, t.IsOnSecond) :
    (a.published.map CivilTime.instant).getD 0 = (b.published.map CivilTime.instant).getD 0 ↔ a.moment = b.moment := by
  rw [← Int.mul_eq_mul_right_iff (by decide : (1000000 : Int) ≠ 0), Draft.instant_mul_eq ha, Draft.instant_mul_eq hb]
  exact Int.mul_eq_mul_right_iff (by decide)

namespace Query

variable {plan : Plan} {metaKeys : List String} {scope : Scope} {records : List Record}

/-- A title pattern of a plan matches the title. -/
def Plan.TitleMatches (plan : Plan) (d : Draft) : Prop :=
  ∃ title ∈ d.title, ∃ p ∈ plan.titlePatterns, p.accepts title = true

/-- A hit stands before another one: first come those whose title matches, then those of a higher rank, those published
later, and those with a smaller identifier. -/
def Plan.Precedes (plan : Plan) (a b : Hit) : Prop :=
  (plan.TitleMatches a.record ∧ ¬ plan.TitleMatches b.record) ∨
  (plan.TitleMatches a.record ↔ plan.TitleMatches b.record) ∧
    (b.rank < a.rank ∨ a.rank = b.rank ∧
      (b.record.moment < a.record.moment ∨ a.record.moment = b.record.moment ∧
        ∃ i ∈ a.record.id, ∃ j ∈ b.record.id, i < j))

/-- What a search finds of a record: the record may be returned, it satisfies the plan, and its score is the rank. -/
structure Plan.Finds (plan : Plan) (metaKeys : List String) (scope : Scope) (record : Record) (hit : Hit) : Prop where
  draft : hit.record = record.toDraft
  type : scope.types = [] ∨ record.type ∈ scope.types
  unprotected : scope.includeProtected = true ∨ record.password = ""
  satisfied : plan.predicate.eval metaKeys record.toDraft = .ok true
  rank : ∃ n : Nat, score metaKeys record.toDraft plan.ranking = .ok n ∧ hit.rank = n

/-- No two hits stand before each other. -/
theorem Plan.Precedes.asymm {a b : Hit} (h : plan.Precedes a b) : ¬ plan.Precedes b a := by
  rintro (⟨hb, ha⟩ | ⟨htitle, hback⟩)
  · rcases h with ⟨-, hb'⟩ | ⟨htitle, -⟩
    · exact hb' hb
    · exact ha (htitle.mpr hb)
  · rcases h with ⟨ha, hb⟩ | ⟨-, h⟩
    · exact hb (htitle.mpr ha)
    · rcases h with h | ⟨hrank, h | ⟨hmoment, i, hi, j, hj, hij⟩⟩
      · omega
      · omega
      · rcases hback with hback | ⟨-, hback | ⟨-, j', hj', i', hi', hji⟩⟩
        · omega
        · omega
        · obtain rfl := Option.mem_unique hi hi'
          obtain rfl := Option.mem_unique hj hj'
          omega

/-- Hits are put into order in one way only. -/
theorem eq_of_pairwise_precedes {hits others : List Hit} (h : hits.Pairwise plan.Precedes)
    (h' : others.Pairwise plan.Precedes) (hmem : ∀ hit, hit ∈ hits ↔ hit ∈ others) : hits = others := by
  have hirrefl (a b : Hit) (h : plan.Precedes a b) : a ≠ b := by
    rintro rfl
    exact h.asymm h
  have hperm : hits.Perm others :=
    (List.perm_ext_iff_of_nodup (h.imp (hirrefl _ _)) (h'.imp (hirrefl _ _))).mpr hmem
  apply hperm.eq_of_pairwise _ h h'
  intro a b _ _ hab hba
  exact absurd hba hab.asymm

/-- A hit comes behind others by its title where there are title patterns and none matches. -/
theorem titleMisses_iff {d : Draft} :
    plan.titleMisses d.title = true ↔ plan.titlePatterns ≠ [] ∧ ¬ plan.TitleMatches d := by
  unfold Plan.titleMisses Plan.TitleMatches
  cases d.title <;> simp

theorem Plan.TitleMatches.ne_nil {d : Draft} (h : plan.TitleMatches d) : plan.titlePatterns ≠ [] := by
  obtain ⟨-, -, p, hp, -⟩ := h
  exact List.ne_nil_of_mem hp

theorem titleMisses_lt_iff {a b : Draft} :
    (if plan.titleMisses a.title then (1 : Int) else 0) < (if plan.titleMisses b.title then 1 else 0) ↔
      plan.TitleMatches a ∧ ¬ plan.TitleMatches b := by
  have hmisses : (if plan.titleMisses a.title then (1 : Int) else 0) < (if plan.titleMisses b.title then 1 else 0) ↔
      ¬ plan.titleMisses a.title = true ∧ plan.titleMisses b.title = true := by
    cases plan.titleMisses a.title <;> cases plan.titleMisses b.title <;> simp
  have ha (h : plan.TitleMatches a) := h.ne_nil
  rw [hmisses, titleMisses_iff, titleMisses_iff]
  tauto

theorem titleMisses_eq_iff {a b : Draft} :
    (if plan.titleMisses a.title then (1 : Int) else 0) = (if plan.titleMisses b.title then 1 else 0) ↔
      (plan.TitleMatches a ↔ plan.TitleMatches b) := by
  have hmisses : (if plan.titleMisses a.title then (1 : Int) else 0) = (if plan.titleMisses b.title then 1 else 0) ↔
      (plan.titleMisses a.title = true ↔ plan.titleMisses b.title = true) := by
    cases plan.titleMisses a.title <;> cases plan.titleMisses b.title <;> simp
  have ha (h : plan.TitleMatches a) := h.ne_nil
  have hb (h : plan.TitleMatches b) := h.ne_nil
  rw [hmisses, titleMisses_iff, titleMisses_iff]
  tauto

/-- Of two hits the one with the lower key stands before the other. -/
theorem keyLe_hitKey_iff {a b : Hit} {i j : Int} (ha : ∀ t ∈ a.record.published, t.IsOnSecond)
    (hb : ∀ t ∈ b.record.published, t.IsOnSecond) (hi : a.record.id = some i) (hj : b.record.id = some j)
    (hne : i ≠ j) : keyLe (plan.hitKey a) (plan.hitKey b) = true ↔ plan.Precedes a b := by
  have hids : keyLe [a.record.id.getD 0] [b.record.id.getD 0] = true ↔
      ∃ i ∈ a.record.id, ∃ j ∈ b.record.id, i < j := by
    simp [keyLe, hi, hj, hne]
  rw [Plan.hitKey, Plan.hitKey, Plan.Precedes, keyLe_cons_iff, keyLe_cons_iff, keyLe_cons_iff, titleMisses_lt_iff,
    titleMisses_eq_iff, Int.neg_lt_neg_iff, Int.neg_inj, Int.neg_lt_neg_iff, Int.neg_inj,
    Draft.instant_lt_iff hb ha, Draft.instant_eq_iff ha hb, hids]

theorem admits_toDraft_iff {record : Record} : scope.admits record.toDraft = true ↔
    (scope.types = [] ∨ record.type ∈ scope.types) ∧ (scope.includeProtected = true ∨ record.password = "") := by
  simp [Scope.admits, Record.toDraft, Draft.isProtected]

/-- The hit that a search finds of a record, by the answer of the plan and the score. -/
theorem finds_iff {record : Record} {b : Bool} {n : Nat} (hb : plan.predicate.eval metaKeys record.toDraft = .ok b)
    (hn : score metaKeys record.toDraft plan.ranking = .ok n) {hit : Hit} :
    plan.Finds metaKeys scope record hit ↔ (scope.admits record.toDraft && b) = true ∧ ⟨record.toDraft, n⟩ = hit := by
  rw [Bool.and_eq_true, admits_toDraft_iff]
  constructor
  · rintro ⟨hdraft, htype, hunprotected, hsatisfied, m, hm, hrank⟩
    obtain rfl := Except.ok.inj (hb.symm.trans hsatisfied)
    obtain rfl := Except.ok.inj (hn.symm.trans hm)
    rw [← hdraft, ← hrank]
    exact ⟨⟨⟨htype, hunprotected⟩, rfl⟩, rfl⟩
  · rintro ⟨⟨⟨htype, hunprotected⟩, rfl⟩, rfl⟩
    exact ⟨rfl, htype, hunprotected, hb, n, hn, rfl⟩

/-- Hits of different records of a catalogue that stand in the order of their keys stand before each other. -/
theorem pairwise_precedes (hrecords : IsCatalogue records) {hits : List Hit}
    (hof : ∀ hit ∈ hits, ∃ record ∈ records, hit.record = record.toDraft)
    (hids : (hits.map fun hit => hit.record.id).Nodup)
    (hsorted : hits.Pairwise fun a b => keyLe (plan.hitKey a) (plan.hitKey b) = true) :
    hits.Pairwise plan.Precedes := by
  have hdistinct : hits.Pairwise fun a b => a.record.id ≠ b.record.id := List.pairwise_map.mp hids
  have hboth := hsorted.and hdistinct
  apply hboth.imp_of_mem
  rintro a b ha hb ⟨hle, hne⟩
  obtain ⟨r, hr, hrecordA⟩ := hof a ha
  obtain ⟨s, hs, hrecordB⟩ := hof b hb
  obtain ⟨i, hi⟩ := Option.isSome_iff_exists.mp (hrecords.identified r hr)
  obtain ⟨j, hj⟩ := Option.isSome_iff_exists.mp (hrecords.identified s hs)
  have hidA : a.record.id = some i := by rw [hrecordA, ← hi]; rfl
  have hidB : b.record.id = some j := by rw [hrecordB, ← hj]; rfl
  apply (keyLe_hitKey_iff ?_ ?_ hidA hidB ?_).mp hle
  · rw [hrecordA]
    exact hrecords.onSecond r hr
  · rw [hrecordB]
    exact hrecords.onSecond s hs
  · rintro rfl
    exact hne (hidA.trans hidB.symm)

/-- A search finds every record that passes once and nothing else, in the order of hits. -/
theorem Plan.IsProper.exists_ordered_search (hplan : plan.IsProper) (metaKeys : List String) (scope : Scope)
    {records : List Record} (hrecords : IsCatalogue records) : ∃ hits,
      plan.search metaKeys scope (records.map Record.toDraft) = .ok hits ∧
      (∀ hit, hit ∈ hits ↔ ∃ record ∈ records, plan.Finds metaKeys scope record hit) ∧
      (hits.map Hit.record).Nodup ∧ hits.Pairwise plan.Precedes := by
  choose answer hanswer using hplan.predicate.eval_isOk metaKeys
  choose rank hrank using hplan.exists_score metaKeys
  have hsearch := Plan.search_map_eq (fun record (_ : record ∈ records) =>
    Plan.hit?_eq (hanswer record) (hrank record) scope) fun _ _ => rfl
  have hids : ((sortByKey plan.hitKey ((records.filter fun record =>
      scope.admits record.toDraft && answer record).map fun record => ⟨record.toDraft, rank record⟩)).map
        fun hit => hit.record.id).Nodup := by
    rw [((sortByKey_perm plan.hitKey _).map _).nodup_iff, List.map_map]
    exact hrecords.distinct.sublist (List.filter_sublist.map Record.id)
  refine ⟨_, hsearch, ?_, ?_, ?_⟩
  · intro hit
    simp only [mem_sortByKey, List.mem_map, List.mem_filter, finds_iff (hanswer _) (hrank _), and_assoc]
  · apply List.Nodup.of_map Draft.id
    rw [List.map_map]
    exact hids
  · apply pairwise_precedes hrecords _ hids (sortByKey_sorted ..)
    intro hit hhit
    obtain ⟨record, hrecord, rfl⟩ := List.mem_map.mp (mem_sortByKey.mp hhit)
    exact ⟨record, (List.mem_filter.mp hrecord).1, rfl⟩

/-- The plan of a query finds in a catalogue each record that passes, once and with its score as its rank. The hits stand
in order, and the order in which the records are given makes no difference. -/
theorem exists_search_in_order (fields : FieldSet) (options : Options) (tokens : List String) :
    ∃ plan, compile fields options tokens = .ok plan ∧
      ∀ (searched : FieldSet) (scope : Scope) (records : List Record), IsCatalogue records → ∃ hits,
        plan.search searched.metaKeys scope (records.map Record.toDraft) = .ok hits ∧
        (∀ hit, hit ∈ hits ↔ ∃ record ∈ records, plan.Finds searched.metaKeys scope record hit) ∧
        (hits.map Hit.record).Nodup ∧ hits.Pairwise plan.Precedes ∧
        ∀ others : List Record, others.Perm records →
          plan.search searched.metaKeys scope (others.map Record.toDraft) = .ok hits := by
  obtain ⟨plan, hcompile, hplan, -⟩ := exists_compile fields options tokens
  refine ⟨plan, hcompile, ?_⟩
  intro searched scope records hrecords
  obtain ⟨hits, hsearch, hmem, hnodup, hordered⟩ := hplan.exists_ordered_search searched.metaKeys scope hrecords
  refine ⟨hits, hsearch, hmem, hnodup, hordered, ?_⟩
  intro others hperm
  obtain ⟨found, hfound, hmem', -, hordered'⟩ :=
    hplan.exists_ordered_search searched.metaKeys scope (hrecords.perm hperm)
  -- both searches find the same, and there is one way only to put it into order
  have hsame : found = hits := by
    apply eq_of_pairwise_precedes hordered' hordered
    intro hit
    simp only [hmem, hmem', hperm.mem_iff]
  rw [hfound, hsame]

/-- A record of a building. -/
def buildingRecord (id : Int) (title body : String) (published : Option CivilTime) : Record where
  id := some id
  title := title
  excerpt := ""
  body := body
  type := "post"
  password := ""
  published := published
  metadata := []

/-- Buildings, one with a time of the zone an hour ahead, one without a time, and one with a time before 1970. -/
def buildings : List Record :=
  [buildingRecord 3 "Tower hall" "" (some ⟨2001, 2, 3, 4, 5, 6, 0, some 3600000000⟩),
    buildingRecord 1 "Garden" "behind the tower" none,
    buildingRecord 2 "Tower" "" (some ⟨1960, 5, 17, 12, 0, 0, 0, none⟩)]

theorem isCatalogue_buildings : IsCatalogue buildings where
  identified := by decide
  distinct := by decide
  onSecond := by
    intro r hr t ht
    simp only [buildings, List.mem_cons, List.not_mem_nil, or_false] at hr
    rcases hr with rfl | rfl | rfl
    · obtain rfl := Option.some.inj ht
      exact ⟨by decide, by decide, by decide⟩
    · cases ht
    · obtain rfl := Option.some.inj ht
      exact ⟨by decide, by decide, by decide⟩

/-- The plan of a search for a tower in titles and bodies. -/
def towerPlan : Plan :=
  ⟨.all [.any [.test ⟨.known .title, .containing "tower"⟩, .test ⟨.known .body, .containing "tower"⟩]], none,
    [.containing "tower"]⟩

def titlesAndBodies : FieldSet := ⟨[.title, .body], [], by decide, by decide⟩

theorem compile_tower : compile titlesAndBodies {} ["tower"] = .ok towerPlan := by
  have hterms : termsOf defaultMarker ["tower"] = [⟨"tower", false⟩] := by decide +kernel
  rw [compile, hterms]
  rfl

/-- Buildings are searched for a tower, from the first to the last or the other way round. The garden behind the tower is
among the hits. -/
theorem exists_search_in_order_buildings : IsCatalogue buildings ∧ buildings.reverse.Perm buildings ∧ ∃ hits,
    towerPlan.search [] {} (buildings.map Record.toDraft) = .ok hits ∧
    ⟨(buildingRecord 1 "Garden" "behind the tower" none).toDraft, 0⟩ ∈ hits ∧
    (∀ hit ∈ hits, ∃ record ∈ buildings, towerPlan.Finds [] {} record hit) ∧
    (hits.map Hit.record).Nodup ∧ hits.Pairwise towerPlan.Precedes ∧
    towerPlan.search [] {} (buildings.reverse.map Record.toDraft) = .ok hits := by
  obtain ⟨plan, hplan, hfinds⟩ := exists_search_in_order titlesAndBodies {} ["tower"]
  obtain rfl := Except.ok.inj (compile_tower.symm.trans hplan)
  obtain ⟨hits, hsearch, hmem, hnodup, hordered, hothers⟩ := hfinds titlesAndBodies {} buildings isCatalogue_buildings
  have hgarden : towerPlan.Finds [] {} (buildingRecord 1 "Garden" "behind the tower" none)
      ⟨(buildingRecord 1 "Garden" "behind the tower" none).toDraft, 0⟩ :=
    ⟨rfl, .inl rfl, .inr rfl, by decide +kernel, 0, rfl, rfl⟩
  refine ⟨isCatalogue_buildings, List.reverse_perm _, hits, hsearch, ?_, ?_, hnodup, hordered, ?_⟩
  · exact (hmem _).mpr ⟨_, by simp [buildings], hgarden⟩
  · intro hit hhit
    exact (hmem hit).mp hhit
  · exact hothers _ (List.reverse_perm _)

end Query

end TermSearch

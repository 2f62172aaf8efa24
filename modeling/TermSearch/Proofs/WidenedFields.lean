import Mathlib.Algebra.Order.BigOperators.Group.List
import Mathlib.Algebra.Order.Group.Nat
import Mathlib.Data.List.Perm.Subperm
import TermSearch.Proofs.TermPatterns

/-! Queries over more fields. A term that is not excluded may be met in any field, so with more fields it finds more
records, and these pass no fewer of the counted tests. An excluded term must be in no field, so with more fields it
leaves fewer records. The order in which the fields are named makes no difference. -/
namespace TermSearch.Query

/-- The fields of a field set are among those of another one, for the same metadata keys. -/
structure FieldSet.IsWithin (fields more : FieldSet) : Prop where
  metaKeys : fields.metaKeys = more.metaKeys
  fields : fields.fields ⊆ more.fields

variable {fields more : FieldSet} {options : Options} {record : Record}

/-- The texts at which a query looks it looks at with more fields, too. -/
theorem Searched.of_isWithin (hwithin : fields.IsWithin more) {s : String} (h : Searched fields record s) :
    Searched more record s := by
  rw [searched_iff] at h ⊢
  obtain ⟨f, hf, hs⟩ := h
  rw [hwithin.metaKeys] at hs
  exact ⟨f, hwithin.fields hf, hs⟩

theorem TermMet.of_more_fields (hwithin : fields.IsWithin more) {term : String}
    (h : TermMet fields options record term) : TermMet more options record term := by
  rw [termMet_iff_termPatterns] at h ⊢
  apply h.imp_right
  rintro ⟨p, hp, s, hs, haccepts⟩
  exact ⟨p, hp, s, hs.of_isWithin hwithin, haccepts⟩

/-- The plan over some fields implies the plan over others, where these are more fields for every included term and fewer
for every excluded one. -/
theorem implies_planOver {others : FieldSet} {terms : List Term} (hkeys : fields.metaKeys = others.metaKeys)
    (hincluded : ∀ t ∈ terms, t.excluded = false → fields.fields ⊆ others.fields)
    (hexcluded : ∀ t ∈ terms, t.excluded = true → others.fields ⊆ fields.fields) :
    (planOver fields options terms).Implies (planOver others options terms) fields.metaKeys := by
  apply Plan.Implies.of_holds (isProper_planOver ..).predicate (isProper_planOver ..).predicate
  intro record h
  rw [hkeys]
  apply holds_groups_mono _ _ h
  · intro t ht hex hmet
    exact hmet.of_more_fields ⟨hkeys, hincluded t ht hex⟩
  · intro t ht hex hfree s hs
    exact hfree s (hs.of_isWithin ⟨hkeys.symm, hexcluded t ht hex⟩)

/-- More fields give rise to more tests of the same patterns. -/
theorem countP_testsFor_le (hwithin : fields.IsWithin more) (passes : Test → Bool) (patterns : List Pattern) :
    (testsFor fields.fields patterns).countP passes ≤ (testsFor more.fields patterns).countP passes := by
  have hfields : fields.fields.Subperm more.fields := List.subperm_of_subset fields.nodup hwithin.fields
  rw [testsFor, testsFor, List.countP_flatMap, List.countP_flatMap]
  apply List.sum_le_sum
  intro p _
  dsimp only [Function.comp_apply]
  rw [List.countP_map, List.countP_map]
  exact hfields.countP_le _

theorem rankOver_le_of_more_fields (hwithin : fields.IsWithin more) (options : Options) (terms : List Term)
    (record : Record) : rankOver fields options terms record ≤ rankOver more options terms record := by
  unfold rankOver
  split
  · rw [countedTests_groupsOf, countedTests_groupsOf, List.countP_flatMap, List.countP_flatMap, hwithin.metaKeys]
    apply List.sum_le_sum
    intro t _
    exact countP_testsFor_le hwithin _ _
  · exact Nat.le_refl 0

/-- Plans of the same terms over the same fields give the same answers and the same scores, in whatever order the fields
are named. -/
theorem exists_same_answer (hwithin : fields.IsWithin more) (hback : more.IsWithin fields) (options : Options)
    (terms : List Term) (record : Record) :
    (∃ b, (planOver fields options terms).predicate.eval fields.metaKeys record.toDraft = .ok b ∧
      (planOver more options terms).predicate.eval fields.metaKeys record.toDraft = .ok b) ∧
    ∃ n, score fields.metaKeys record.toDraft (planOver fields options terms).ranking = .ok n ∧
      score fields.metaKeys record.toDraft (planOver more options terms).ranking = .ok n := by
  constructor
  · apply Plan.Implies.antisymm
    · exact implies_planOver hwithin.metaKeys (fun _ _ _ => hwithin.fields) fun _ _ _ => hback.fields
    · rw [hwithin.metaKeys]
      exact implies_planOver hback.metaKeys (fun _ _ _ => hback.fields) fun _ _ _ => hwithin.fields
  · have hsame : rankOver fields options terms record = rankOver more options terms record :=
      Nat.le_antisymm (rankOver_le_of_more_fields hwithin ..) (rankOver_le_of_more_fields hback ..)
    have hscore := score_planOver more options terms record
    rw [← hwithin.metaKeys, ← hsame] at hscore
    exact ⟨_, score_planOver .., hscore⟩

/-- With more fields a query without excluded terms finds every record again and ranks none lower, and a query of excluded
terms only finds no other records. The order of the fields makes no difference to any query. -/
theorem implies_of_more_fields (fields more : FieldSet) (hwithin : fields.IsWithin more) (options : Options)
    (tokens : List String) : ∃ p q, compile fields options tokens = .ok p ∧ compile more options tokens = .ok q ∧
      ((∀ t ∈ termsOf options.marker tokens, t.excluded = false) → p.Implies q fields.metaKeys) ∧
      ((∀ t ∈ termsOf options.marker tokens, t.excluded = true) → q.Implies p fields.metaKeys) ∧
      (∀ record : Record, ∃ m n, score fields.metaKeys record.toDraft p.ranking = .ok m ∧
        score fields.metaKeys record.toDraft q.ranking = .ok n ∧ m ≤ n) ∧
      (fields.fields.Perm more.fields → ∀ record : Record,
        (∃ b, p.predicate.eval fields.metaKeys record.toDraft = .ok b ∧
          q.predicate.eval fields.metaKeys record.toDraft = .ok b) ∧
        ∃ n, score fields.metaKeys record.toDraft p.ranking = .ok n ∧
          score fields.metaKeys record.toDraft q.ranking = .ok n) := by
  refine ⟨_, _, compile_eq_planOver .., compile_eq_planOver .., ?_, ?_, ?_, ?_⟩
  · intro hincluded
    apply implies_planOver hwithin.metaKeys
    · intro t _ _
      exact hwithin.fields
    · intro t ht hex
      rw [hincluded t ht] at hex
      cases hex
  · intro hexcluded
    rw [hwithin.metaKeys]
    apply implies_planOver hwithin.metaKeys.symm
    · intro t ht hex
      rw [hexcluded t ht] at hex
      cases hex
    · intro t _ _
      exact hwithin.fields
  · intro record
    have hscore := score_planOver more options (termsOf options.marker tokens) record
    rw [← hwithin.metaKeys] at hscore
    exact ⟨_, _, score_planOver .., hscore, rankOver_le_of_more_fields hwithin ..⟩
  · intro hperm record
    have hback : more.IsWithin fields := ⟨hwithin.metaKeys.symm, hperm.symm.subset⟩
    exact exists_same_answer hwithin hback options _ record

/-- The metadata and the body, in this order. -/
def placeAndBody : FieldSet := ⟨[.metadata, .body], ["place"], by decide, by decide⟩

def bodyAndPlace : FieldSet := ⟨[.body, .metadata], ["place"], by decide, by decide⟩

theorem isWithin_everything : placeAndBody.IsWithin (FieldSet.everything ["place"]) := ⟨rfl, by decide⟩

theorem isWithin_bodyAndPlace : placeAndBody.IsWithin bodyAndPlace := ⟨rfl, by decide⟩

theorem perm_bodyAndPlace : placeAndBody.fields.Perm bodyAndPlace.fields := by decide

theorem termsOf_sky : termsOf defaultMarker ["sky"] = [⟨"sky", false⟩] := by decide +kernel

theorem termsOf_without_tower : termsOf defaultMarker ["-tower"] = [⟨"tower", true⟩] := by decide +kernel

/-- A query for the sky finds more in all fields than in some, one without a tower finds less, and one for the sky without
a tower finds the same in some fields whatever their order. -/
theorem implies_of_more_fields_sky : placeAndBody.IsWithin (FieldSet.everything ["place"]) ∧
    (∀ t ∈ termsOf defaultMarker ["sky"], t.excluded = false) ∧
    (∃ p q, compile placeAndBody { expand := .on } ["sky"] = .ok p ∧
      compile (FieldSet.everything ["place"]) { expand := .on } ["sky"] = .ok q ∧ p.Implies q ["place"]) ∧
    (∀ t ∈ termsOf defaultMarker ["-tower"], t.excluded = true) ∧
    (∃ p q, compile placeAndBody {} ["-tower"] = .ok p ∧
      compile (FieldSet.everything ["place"]) {} ["-tower"] = .ok q ∧ q.Implies p ["place"]) ∧
    placeAndBody.IsWithin bodyAndPlace ∧ placeAndBody.fields.Perm bodyAndPlace.fields ∧
    ∃ p q, compile placeAndBody { expand := .on } ["sky", "-tower"] = .ok p ∧
      compile bodyAndPlace { expand := .on } ["sky", "-tower"] = .ok q ∧ ∀ record : Record,
        (∃ b, p.predicate.eval ["place"] record.toDraft = .ok b ∧ q.predicate.eval ["place"] record.toDraft = .ok b) ∧
        ∃ n, score ["place"] record.toDraft p.ranking = .ok n ∧ score ["place"] record.toDraft q.ranking = .ok n := by
  have hincluded : ∀ t ∈ termsOf defaultMarker ["sky"], t.excluded = false := by simp [termsOf_sky]
  have hexcluded : ∀ t ∈ termsOf defaultMarker ["-tower"], t.excluded = true := by simp [termsOf_without_tower]
  refine ⟨isWithin_everything, hincluded, ?_, hexcluded, ?_, isWithin_bodyAndPlace, perm_bodyAndPlace, ?_⟩
  · obtain ⟨p, q, hp, hq, hmore, -⟩ := implies_of_more_fields _ _ isWithin_everything { expand := .on } ["sky"]
    exact ⟨p, q, hp, hq, hmore hincluded⟩
  · obtain ⟨p, q, hp, hq, -, hless, -⟩ := implies_of_more_fields _ _ isWithin_everything {} ["-tower"]
    exact ⟨p, q, hp, hq, hless hexcluded⟩
  · obtain ⟨p, q, hp, hq, -, -, -, hsame⟩ := implies_of_more_fields _ _ isWithin_bodyAndPlace { expand := .on }
      ["sky", "-tower"]
    exact ⟨p, q, hp, hq, hsame perm_bodyAndPlace⟩

end TermSearch.Query

import TermSearch.Proofs.FragmentPlaces
import TermSearch.Proofs.TermCuts

/-! Plans and the texts that the database reads as they stand. The patterns of a plan are made of the characters of
its terms, so that the plan of legible terms is legible, in every mode. -/
namespace TermSearch.Sql

open Query (FieldSet Options Pattern Plan Predicate Term Test)

variable {fields : FieldSet} {options : Options} {s term : String} {p : Pattern}

/-- A sub-term has no other characters than its term. -/
theorem isLegible_of_mem_subterms (h : IsLegible term) (hs : s ∈ Text.subterms term) : IsLegible s := by
  have hlaws := Text.cutsAtBoundaries_subterms
  induction term using Text.boundary_induction with
  | stretch t ht =>
    rw [hlaws.stretch t ht] at hs
    split at hs
    · cases hs
    · rw [List.mem_singleton.mp hs]
      intro c hc
      rw [Text.toList_trim] at hc
      exact h c ((Text.infix_trimChars t.toList).mem hc)
  | cut x d y hd hx hy =>
    rw [hlaws.boundary x y d hd] at hs
    simp only [IsLegible, String.toList_append, List.mem_append] at h
    rcases List.mem_append.mp hs with hs | hs
    · exact hx (fun c hc => h c (.inl (.inl hc))) hs
    · exact hy (fun c hc => h c (.inr hc)) hs

theorem isLegible_of_mem_fragments (h : IsLegible term) (hs : s ∈ Query.fragments term) : IsLegible s := by
  obtain ⟨front, behind, rfl, -⟩ := Query.mem_fragments_iff.mp hs
  intro c hc
  exact h c (by simp [hc])

theorem isLegiblePattern_containing (h : IsLegible s) : IsLegiblePattern (.containing s) :=
  fun _ hsegment => List.mem_singleton.mp hsegment ▸ h

theorem isLegiblePattern_literalPattern (exact : Query.Switch) (h : IsLegible s) :
    IsLegiblePattern (Query.literalPattern exact s) := by
  unfold Query.literalPattern
  split <;> exact fun _ hsegment => List.mem_singleton.mp hsegment ▸ h

theorem isLegiblePattern_of_mem_expand (h : IsLegible s) (hp : p ∈ Query.expand s) : IsLegiblePattern p := by
  rw [Query.expand, List.mem_cons] at hp
  rcases hp with rfl | hp
  · exact isLegiblePattern_containing h
  · split at hp
    · obtain ⟨kept, hkept, rfl⟩ := List.mem_map.mp hp
      have hsublist := Query.sublist_of_mem_leaveOneOut (List.mem_filter.mp hkept).1
      exact fun segment hsegment => isLegible_of_mem_fragments h (hsublist.mem hsegment)
    · cases hp

theorem isLegiblePattern_of_mem_subtermPatterns {exact : Bool} (h : IsLegible s)
    (hp : p ∈ Query.subtermPatterns exact s) : IsLegiblePattern p := by
  rw [Query.subtermPatterns] at hp
  split at hp
  · rw [List.mem_singleton.mp hp]
    exact fun _ hsegment => List.mem_singleton.mp hsegment ▸ h
  · exact isLegiblePattern_of_mem_expand h hp

theorem isLegiblePredicate_anyField {patterns : List Pattern} (h : ∀ p ∈ patterns, IsLegiblePattern p) :
    IsLegiblePredicate (Query.anyField fields patterns) := by
  refine .any fun c hc => ?_
  obtain ⟨p, hp, hc⟩ := List.mem_flatMap.mp hc
  obtain ⟨f, -, rfl⟩ := List.mem_map.mp hc
  exact .test f (h p hp)

theorem isLegiblePredicate_noField (h : IsLegiblePattern p) : IsLegiblePredicate (Query.noField fields p) := by
  refine .all fun c hc => ?_
  obtain ⟨f, -, rfl⟩ := List.mem_map.mp hc
  exact .not (.test f h)

theorem isLegiblePredicate_of_mem_group? {t : Term} (h : IsLegible t.text) {g : Predicate}
    (hg : g ∈ Query.group? fields options t) : IsLegiblePredicate g := by
  refine Query.group?_cases (isLegiblePredicate_noField (isLegiblePattern_containing h)) ?_ ?_ (fun _ => .any) hg
  · refine isLegiblePredicate_anyField fun p hp => ?_
    rw [List.mem_singleton.mp hp]
    exact isLegiblePattern_literalPattern _ h
  · intro s hs
    exact isLegiblePredicate_anyField fun p hp =>
      isLegiblePattern_of_mem_subtermPatterns (isLegible_of_mem_subterms h hs) hp

/-- The leaves of a legible predicate are tests of fields with legible patterns. -/
theorem IsLegiblePredicate.leavesUnder_isOk {p : Predicate} (h : IsLegiblePredicate p) (negated : Bool) :
    ∃ ls, p.leavesUnder negated = .ok ls ∧ ∀ l ∈ ls, l.test.IsProper ∧ IsLegiblePattern l.test.pattern := by
  induction h generalizing negated with
  | test field hp => exact ⟨_, rfl, fun l hl => List.mem_singleton.mp hl ▸ ⟨⟨field, rfl⟩, hp⟩⟩
  | not _ ih => exact ih _
  | all _ ih => exact Predicate.leavesOfAll_isOk fun c hc => ih c hc _
  | any _ ih => exact Predicate.leavesOfAll_isOk fun c hc => ih c hc _

/-- The plan of legible terms is legible. -/
theorem isLegiblePlan_of_compile {tokens : List String} {plan : Plan}
    (h : ∀ t ∈ Query.termsOf options.marker tokens, IsLegible t.text)
    (hplan : Query.compile fields options tokens = .ok plan) : IsLegiblePlan plan := by
  obtain ⟨tests, htests, hcompile⟩ := Query.exists_compile_eq fields options tokens
  obtain rfl := Except.ok.inj (hcompile.symm.trans hplan)
  have hpredicate : IsLegiblePredicate (.all ((Query.termsOf options.marker tokens).filterMap
      (Query.group? fields options))) := by
    refine .all fun g hg => ?_
    obtain ⟨t, ht, hg⟩ := List.mem_filterMap.mp hg
    exact isLegiblePredicate_of_mem_group? (h t ht) hg
  refine ⟨hpredicate, ?_, ?_⟩
  · intro ranking hranking t ht
    obtain ⟨-, heq⟩ := Option.ite_none_right_eq_some.mp hranking
    obtain rfl := Option.some.inj heq
    obtain ⟨ls, hls, hleaves⟩ := hpredicate.leavesUnder_isOk false
    rw [Predicate.rankingTests, Predicate.leaves, hls] at htests
    obtain rfl := Except.ok.inj htests
    obtain ⟨l, hl, rfl⟩ := List.mem_map.mp ht
    exact hleaves l (List.mem_filter.mp hl).1
  · intro p hp
    obtain ⟨t, ht, hp⟩ := List.mem_filterMap.mp hp
    rw [Query.titlePattern?] at hp
    split at hp
    · cases hp
    · rw [← Option.some.inj hp]
      exact isLegiblePattern_containing (h t ht)

end TermSearch.Sql

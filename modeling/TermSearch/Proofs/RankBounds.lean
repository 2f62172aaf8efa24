import TermSearch.Proofs.JoinedQueries

/-! Between which bounds the rank of a record lies. The group of an included term is a choice among tests, and a
record that satisfies it passes one of them; the group of an excluded term is a refusal, and a record that satisfies
it passes none of its tests. So the rank is at least the number of the former, and counting the negated leaves as well
would move all records alike. -/
namespace TermSearch.Query

namespace Predicate

/-- A tree that asks for one of its tests. -/
inductive IsChoice : Predicate → Prop
  | test (field : Field) (p : Pattern) : IsChoice (.test ⟨.known field, p⟩)
  | any {children : List Predicate} (h : ∀ c ∈ children, IsChoice c) : IsChoice (.any children)

/-- A tree that asks for none of its tests. -/
inductive IsRefusal : Predicate → Prop
  | not (field : Field) (p : Pattern) : IsRefusal (.not (.test ⟨.known field, p⟩))
  | all {children : List Predicate} (h : ∀ c ∈ children, IsRefusal c) : IsRefusal (.all children)

theorem IsChoice.isProper {p : Predicate} (h : p.IsChoice) : p.IsProper := by
  induction h with
  | test field p => exact .test field p
  | any _ ih => exact .any ih

theorem IsRefusal.isProper {p : Predicate} (h : p.IsRefusal) : p.IsProper := by
  induction h with
  | not field p => exact .not (.test field p)
  | all _ ih => exact .all ih

variable {metaKeys : List String} {record : Record} {p : Predicate}

theorem holds_test_iff_passes {field : Field} {pattern : Pattern} :
    (test ⟨.known field, pattern⟩).Holds metaKeys record ↔
      Test.passes metaKeys record ⟨.known field, pattern⟩ = true := by
  rw [holds_test_iff, Test.passes, List.any_eq_true]

theorem IsChoice.negated_eq_false (h : p.IsChoice) : ∀ l ∈ p.leafList, l.negated = false := by
  induction h with
  | test field p => simp
  | any h ih =>
    rw [leafList_any fun c hc => (h c hc).isProper]
    intro l hl
    obtain ⟨c, hc, hl⟩ := List.mem_flatMap.mp hl
    exact ih c hc l hl

theorem IsChoice.holds_iff (h : p.IsChoice) :
    p.Holds metaKeys record ↔ ∃ l ∈ p.leafList, l.test.passes metaKeys record = true := by
  induction h with
  | test field p => simp [holds_test_iff_passes]
  | any h ih =>
    have hproper := fun c hc => (h c hc).isProper
    rw [holds_any_iff hproper, leafList_any hproper]
    constructor
    · rintro ⟨c, hc, hholds⟩
      obtain ⟨l, hl, hpasses⟩ := (ih c hc).mp hholds
      exact ⟨l, List.mem_flatMap.mpr ⟨c, hc, hl⟩, hpasses⟩
    · rintro ⟨l, hl, hpasses⟩
      obtain ⟨c, hc, hl⟩ := List.mem_flatMap.mp hl
      exact ⟨c, hc, (ih c hc).mpr ⟨l, hl, hpasses⟩⟩

theorem IsRefusal.negated_eq_true (h : p.IsRefusal) : ∀ l ∈ p.leafList, l.negated = true := by
  induction h with
  | not field p => simp
  | all h ih =>
    rw [leafList_all fun c hc => (h c hc).isProper]
    intro l hl
    obtain ⟨c, hc, hl⟩ := List.mem_flatMap.mp hl
    exact ih c hc l hl

theorem IsRefusal.holds_iff (h : p.IsRefusal) :
    p.Holds metaKeys record ↔ ∀ l ∈ p.leafList, l.test.passes metaKeys record = false := by
  induction h with
  | not field p => simp [holds_not_iff (.test field p), holds_test_iff_passes]
  | all h ih =>
    rw [holds_all_iff, leafList_all fun c hc => (h c hc).isProper]
    constructor
    · intro hholds l hl
      obtain ⟨c, hc, hl⟩ := List.mem_flatMap.mp hl
      exact (ih c hc).mp (hholds c hc) l hl
    · intro hfails c hc
      exact (ih c hc).mpr fun l hl => hfails l (List.mem_flatMap.mpr ⟨c, hc, hl⟩)

/-- A record that satisfies a choice is counted for it. -/
theorem IsChoice.countP_pos (h : p.IsChoice) (hholds : p.Holds metaKeys record) :
    0 < p.countedTests.countP (Test.passes metaKeys record) := by
  obtain ⟨l, hl, hpasses⟩ := h.holds_iff.mp hholds
  rw [h.isProper.countedTests_eq, List.countP_pos_iff]
  exact ⟨l.test, List.mem_map_of_mem (List.mem_filter.mpr ⟨hl, by rw [h.negated_eq_false l hl]; rfl⟩), hpasses⟩

end Predicate

section Groups

variable {fields : FieldSet} {options : Options} {term : Term} {g : Predicate}

theorem isChoice_anyField (fields : FieldSet) (patterns : List Pattern) : (anyField fields patterns).IsChoice := by
  refine .any fun c hc => ?_
  obtain ⟨p, -, hc⟩ := List.mem_flatMap.mp hc
  obtain ⟨f, -, rfl⟩ := List.mem_map.mp hc
  exact .test f p

theorem isChoice_of_mem_group? (hincluded : term.excluded = false) (h : g ∈ group? fields options term) :
    g.IsChoice := by
  have hsubterms : ∀ c ∈ (Text.subterms term.text).map fun s =>
      anyField fields (subtermPatterns options.exact.isOn s), c.IsChoice :=
    List.forall_mem_map.mpr fun s _ => isChoice_anyField fields _
  rw [group?, expandedGroup?, literalGroup, hincluded] at h
  split at h
  · simp only [Bool.false_eq_true, if_false] at h
    split at h
    · cases h
    · rename_i group hgroups
      obtain rfl := Option.some.inj h
      exact hsubterms group (hgroups ▸ List.mem_singleton_self _)
    · obtain rfl := Option.some.inj h
      exact .any hsubterms
  · obtain rfl := Option.some.inj h
    exact isChoice_anyField fields _

theorem isRefusal_of_mem_group? (hexcluded : term.excluded = true) (h : g ∈ group? fields options term) :
    g.IsRefusal := by
  obtain rfl := Option.some.inj ((group?_of_excluded hexcluded).symm.trans h)
  refine .all fun c hc => ?_
  obtain ⟨f, -, rfl⟩ := List.mem_map.mp hc
  exact .not f _

variable {metaKeys : List String} {record : Record} {terms : List Term}

/-- Each satisfied group of an included term adds to the count. -/
theorem length_groupsOf_included_le (h : ∀ g ∈ groupsOf fields options terms, g.Holds metaKeys record) :
    (groupsOf fields options (terms.filter fun t => !t.excluded)).length ≤
      ((groupsOf fields options terms).flatMap Predicate.countedTests).countP (Test.passes metaKeys record) := by
  induction terms with
  | nil => exact Nat.le_refl 0
  | cons t terms ih =>
    unfold groupsOf at h ih ⊢
    cases hgroup : group? fields options t with
    | none =>
      rw [List.filterMap_cons_none hgroup] at h ⊢
      have hrest := ih h
      cases hexcluded : t.excluded <;> simpa [hexcluded, hgroup] using hrest
    | some g =>
      rw [List.filterMap_cons_some hgroup] at h ⊢
      obtain ⟨hg, hothers⟩ := List.forall_mem_cons.mp h
      have hrest := ih hothers
      rw [List.flatMap_cons, List.countP_append]
      cases hexcluded : t.excluded with
      | true =>
        rw [List.filter_cons_of_neg (by simp [hexcluded])]
        omega
      | false =>
        have hcounted := (isChoice_of_mem_group? hexcluded hgroup).countP_pos hg
        rw [List.filter_cons_of_pos (by simp [hexcluded]), List.filterMap_cons_some hgroup, List.length_cons]
        omega

/-- A record that satisfies all groups passes the test of no negated leaf. -/
theorem passes_eq_false_of_negated (h : ∀ g ∈ groupsOf fields options terms, g.Holds metaKeys record) :
    ∀ l ∈ (Predicate.all (groupsOf fields options terms)).leafList, l.negated = true →
      l.test.passes metaKeys record = false := by
  intro l hl hnegated
  rw [Predicate.leafList_all fun _ => isProper_of_mem_groupsOf] at hl
  obtain ⟨g, hg, hl⟩ := List.mem_flatMap.mp hl
  obtain ⟨t, -, hgroup⟩ := List.mem_filterMap.mp hg
  cases hexcluded : t.excluded with
  | true => exact (isRefusal_of_mem_group? hexcluded hgroup).holds_iff.mp (h g hg) l hl
  | false =>
    have hpositive := (isChoice_of_mem_group? hexcluded hgroup).negated_eq_false l hl
    exact absurd (hpositive.symm.trans hnegated) Bool.false_ne_true

/-- The tests that are counted are those of the leaves that are not negated. -/
theorem flatMap_countedTests_eq (fields : FieldSet) (options : Options) (terms : List Term) :
    (groupsOf fields options terms).flatMap Predicate.countedTests =
      ((Predicate.all (groupsOf fields options terms)).leafList.filter fun l => !l.negated).map Leaf.test := by
  have hproper : (Predicate.all (groupsOf fields options terms)).IsProper := isProper_groups fields options terms
  have hcounted := hproper.countedTests_eq
  rw [Predicate.countedTests, Predicate.rankingTests_all fun _ => isProper_of_mem_groupsOf] at hcounted
  exact hcounted

end Groups

/-- Whether a record is as a leaf asks: it passes the test, or under a negation it does not. -/
def Leaf.isMet (metaKeys : List String) (record : Record) (l : Leaf) : Bool :=
  l.test.passes metaKeys record != l.negated

section Leaves

variable {metaKeys : List String} {record : Record} {leaves : List Leaf}

theorem countP_passes_of_negated (h : ∀ l ∈ leaves, l.negated = true → l.test.passes metaKeys record = false) :
    (leaves.map Leaf.test).countP (Test.passes metaKeys record) =
      ((leaves.filter fun l => !l.negated).map Leaf.test).countP (Test.passes metaKeys record) := by
  rw [List.countP_map, List.countP_map, List.countP_filter]
  refine List.countP_congr fun l hl => ?_
  cases hnegated : l.negated with
  | true => simp [h l hl hnegated]
  | false => simp

theorem countP_isMet_of_negated (h : ∀ l ∈ leaves, l.negated = true → l.test.passes metaKeys record = false) :
    leaves.countP (Leaf.isMet metaKeys record) =
      ((leaves.filter fun l => !l.negated).map Leaf.test).countP (Test.passes metaKeys record) +
        leaves.countP Leaf.negated := by
  rw [List.countP_map, List.countP_filter]
  induction leaves with
  | nil => rfl
  | cons l leaves ih =>
    obtain ⟨hl, hleaves⟩ := List.forall_mem_cons.mp h
    rw [List.countP_cons, List.countP_cons, List.countP_cons, ih hleaves, Leaf.isMet]
    cases hnegated : l.negated with
    | true => simp [hl hnegated, Nat.add_assoc]
    | false => simp [Nat.add_right_comm]

end Leaves

theorem score_eq_countP {tests : List Test} (h : ∀ t ∈ tests, t.IsProper) (metaKeys : List String)
    (record : Record) :
    score metaKeys record.toDraft (some tests) = .ok (tests.countP (Test.passes metaKeys record)) :=
  countHolding_eq_countP h metaKeys record

/-- With expansion the rank of a record that satisfies the plan is at least the number of groups of included terms and
at most the number of counted tests. The record passes no test of a negated leaf. So its rank stays the same if these
tests are counted as well, and counting leaves that are met instead adds to every rank the number of negated leaves. -/
theorem rank_le_and_le (fields : FieldSet) (exact : Switch) (marker : String) (tokens : List String) :
    ∃ plan leaves tests, compile fields ⟨exact, .on, marker⟩ tokens = .ok plan ∧
      plan.groups = groupsOf fields ⟨exact, .on, marker⟩ (termsOf marker tokens) ∧
      plan.predicate.leaves = .ok leaves ∧ plan.ranking = some tests ∧
      ∀ (metaKeys : List String) (record : Record), plan.predicate.Holds metaKeys record → ∃ n,
        score metaKeys record.toDraft plan.ranking = .ok n ∧
        (groupsOf fields ⟨exact, .on, marker⟩ ((termsOf marker tokens).filter fun t => !t.excluded)).length ≤ n ∧
        n ≤ tests.length ∧
        (∀ l ∈ leaves, l.negated = true → l.test.holds metaKeys record.toDraft = .ok false) ∧
        score metaKeys record.toDraft (some (leaves.map Leaf.test)) = .ok n ∧
        leaves.countP (Leaf.isMet metaKeys record) = n + leaves.countP Leaf.negated := by
  have hproper := isProper_groups fields ⟨exact, .on, marker⟩ (termsOf marker tokens)
  have htests := flatMap_countedTests_eq fields ⟨exact, .on, marker⟩ (termsOf marker tokens)
  have hleafTests := List.forall_mem_map.mpr hproper.isProper_of_mem_leafList
  refine ⟨_, _, _, compile_eq_planOver fields _ tokens, rfl, hproper.leaves_eq, rfl, fun metaKeys record hholds => ?_⟩
  have hmet := Predicate.holds_all_iff.mp hholds
  have hfails := passes_eq_false_of_negated hmet
  refine ⟨_, ?_, length_groupsOf_included_le hmet, List.countP_le_length, ?_, ?_, ?_⟩
  · refine score_eq_countP (fun t ht => ?_) metaKeys record
    rw [htests] at ht
    obtain ⟨l, hl, rfl⟩ := List.mem_map.mp ht
    exact hproper.isProper_of_mem_leafList l (List.mem_filter.mp hl).1
  · intro l hl hnegated
    rw [(hproper.isProper_of_mem_leafList l hl).holds_eq, hfails l hl hnegated]
  · rw [htests, ← countP_passes_of_negated hfails]
    exact score_eq_countP hleafTests metaKeys record
  · rw [htests]
    exact countP_isMet_of_negated hfails

end TermSearch.Query

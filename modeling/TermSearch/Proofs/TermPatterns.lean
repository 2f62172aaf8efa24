import TermSearch.Proofs.RankBounds

/-! The patterns of a term and the tests that they give rise to. With expansion these are the patterns of all its
sub-terms, and without it a single one. A term that is not excluded is met where some searched text fits one of its
patterns, and the tests that are counted for it are one for each of its patterns and each field. -/
namespace TermSearch.Query

/-- The patterns of a term that is not excluded. -/
def termPatterns (options : Options) (term : String) : List Pattern :=
  if options.expand.isOn then (Text.subterms term).flatMap (subtermPatterns options.exact.isOn)
  else [literalPattern options.exact term]

/-- The tests of some patterns, each in every field. -/
def testsFor (fields : List Field) (patterns : List Pattern) : List Test :=
  patterns.flatMap fun p => fields.map fun f => ⟨.known f, p⟩

theorem subtermPatterns_ne_nil (exact : Bool) (subterm : String) : subtermPatterns exact subterm ≠ [] := by
  unfold subtermPatterns
  split
  · simp
  · simp [expand]

theorem flatMap_subtermPatterns_eq_nil_iff {exact : Bool} {subterms : List String} :
    subterms.flatMap (subtermPatterns exact) = [] ↔ subterms = [] := by
  constructor
  · intro h
    rw [List.eq_nil_iff_forall_not_mem]
    intro s hs
    exact subtermPatterns_ne_nil exact s (List.flatMap_eq_nil_iff.mp h s hs)
  · rintro rfl
    rfl

/-- A term is met where some searched text fits one of its patterns, if it has any. -/
theorem termMet_iff_termPatterns {fields : FieldSet} {options : Options} {record : Record} {term : String} :
    TermMet fields options record term ↔ termPatterns options term = [] ∨
      ∃ p ∈ termPatterns options term, ∃ s, Searched fields record s ∧ p.accepts s = true := by
  unfold TermMet termPatterns
  split
  · rw [flatMap_subtermPatterns_eq_nil_iff]
    simp only [← holds_subterm_iff, holds_anyField_iff, List.mem_flatMap]
    apply or_congr Iff.rfl
    constructor
    · rintro ⟨subterm, hsub, p, hp, hs⟩
      exact ⟨p, ⟨subterm, hsub, hp⟩, hs⟩
    · rintro ⟨p, ⟨subterm, hsub, hp⟩, hs⟩
      exact ⟨subterm, hsub, p, hp, hs⟩
  · simp [accepts_literalPattern_iff]

namespace Predicate

@[simp] theorem countedTests_test (t : Test) : (test t).countedTests = [t] := rfl

/-- A choice counts the tests of its children. -/
theorem countedTests_any {children : List Predicate} (h : ∀ c ∈ children, c.IsProper) :
    (any children).countedTests = children.flatMap countedTests := by
  rw [(IsProper.any h).countedTests_eq, leafList_any h, List.filter_flatMap, List.map_flatMap]
  apply List.flatMap_congr
  intro c hc
  exact (h c hc).countedTests_eq.symm

/-- A refusal counts no test. -/
theorem IsRefusal.countedTests_eq_nil {p : Predicate} (h : p.IsRefusal) : p.countedTests = [] := by
  rw [h.isProper.countedTests_eq, List.map_eq_nil_iff, List.filter_eq_nil_iff]
  intro l hl
  simp [h.negated_eq_true l hl]

end Predicate

section Tests

variable (fields : FieldSet) (options : Options)

theorem testsFor_flatMap {α : Type} (fields : List Field) (xs : List α) (f : α → List Pattern) :
    testsFor fields (xs.flatMap f) = xs.flatMap fun x => testsFor fields (f x) := List.flatMap_assoc

theorem countedTests_anyField (patterns : List Pattern) :
    (anyField fields patterns).countedTests = testsFor fields.fields patterns := by
  have hproper := isProper_anyField fields patterns
  rw [anyField] at hproper ⊢
  cases hproper with
  | any h =>
    rw [Predicate.countedTests_any h, List.flatMap_assoc, testsFor]
    apply List.flatMap_congr
    intro p _
    rw [List.flatMap_map, List.map_eq_flatMap]
    rfl

/-- The tests that are counted for a term that is not excluded. -/
theorem countedTests_group? {term : Term} (hincluded : term.excluded = false) :
    (group? fields options term).toList.flatMap Predicate.countedTests =
      testsFor fields.fields (termPatterns options term.text) := by
  have hsubterms : ((Text.subterms term.text).map fun s =>
        anyField fields (subtermPatterns options.exact.isOn s)).flatMap Predicate.countedTests =
      testsFor fields.fields ((Text.subterms term.text).flatMap (subtermPatterns options.exact.isOn)) := by
    rw [List.flatMap_map, testsFor_flatMap]
    apply List.flatMap_congr
    intro s _
    exact countedTests_anyField fields _
  have hproper : ∀ c ∈ (Text.subterms term.text).map fun s => anyField fields (subtermPatterns options.exact.isOn s),
      c.IsProper := List.forall_mem_map.mpr fun s _ => isProper_anyField fields _
  rw [group?, expandedGroup?, literalGroup, termPatterns, hincluded]
  split
  · rw [← hsubterms]
    simp only [Bool.false_eq_true, if_false]
    split
    · rename_i hgroups
      rw [hgroups]
      rfl
    · rename_i group hgroups
      rw [hgroups]
      rfl
    · rw [Option.toList_some, List.flatMap_singleton]
      exact Predicate.countedTests_any hproper
  · simp [countedTests_anyField]

/-- The tests that are counted for some terms: those of the terms that are not excluded, one after the other. -/
theorem countedTests_groupsOf (terms : List Term) :
    (groupsOf fields options terms).flatMap Predicate.countedTests =
      (terms.filter fun t => !t.excluded).flatMap fun t => testsFor fields.fields (termPatterns options t.text) := by
  rw [groupsOf, List.filterMap_eq_flatMap_toList, List.flatMap_assoc]
  induction terms with
  | nil => rfl
  | cons t terms ih =>
    rw [List.flatMap_cons, ih]
    cases hexcluded : t.excluded with
    | false => simp [hexcluded, countedTests_group? fields options hexcluded]
    | true =>
      have hnone : (group? fields options t).toList.flatMap Predicate.countedTests = [] := by
        rw [List.flatMap_eq_nil_iff]
        intro g hg
        exact (isRefusal_of_mem_group? hexcluded (Option.mem_toList.mp hg)).countedTests_eq_nil
      simp [hexcluded, hnone]

end Tests

end TermSearch.Query

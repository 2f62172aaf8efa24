import Mathlib.Algebra.Ring.Nat
import TermSearch.Proofs.TermPatterns
import TermSearch.Proofs.WidthRuns

/-! How many leaves the plan of an expanded query has. Every leaf under the group of an excluded term is negated and no
leaf under another group is, so the polarity sorts the leaves by the kind of their term. Main statement: the tests that
count toward the rank are the leaves of the terms that are not excluded, one for each pattern and field, and the leaves
that remain are one for each excluded term and field. -/
namespace TermSearch.Query

/-- The number of patterns of a sub-term: the literal one and, where the sub-term is of moderate length, one for each
short fragment. -/
def patternCount (s : String) : Nat :=
  if s.length < 4 ∨ 10 < s.length then 1 else 1 + (fragments s).countP fun f => f.length ≤ 2

/-- A sub-term that is matched whole has as many patterns as one that is not expanded. -/
theorem length_subtermPatterns (exact : Bool) (s : String) : (subtermPatterns exact s).length = patternCount s := by
  by_cases hrange : s.length < 4 ∨ 10 < s.length
  · rw [patternCount, if_pos hrange, subtermPatterns]
    split
    · rfl
    · rw [expand_eq, if_neg (by omega), List.length_singleton]
  · have hexpandable : ¬(exact && !isExpandable s) = true := by
      rw [Bool.and_eq_true, not_isExpandable_iff]
      exact fun h => hrange h.2
    rw [patternCount, if_neg hrange, subtermPatterns, if_neg hexpandable, expand_eq, if_pos (by omega),
      List.length_cons, length_omissions, Nat.add_comm]

theorem length_testsFor (fields : List Field) (patterns : List Pattern) :
    (testsFor fields patterns).length = fields.length * patterns.length := by
  simp [testsFor, List.length_flatMap, List.map_const', Nat.mul_comm]

section Groups

variable {fields : FieldSet} {options : Options} {term : Term} {g : Predicate}

theorem negated_eq_excluded (h : g ∈ group? fields options term) : ∀ l ∈ g.leafList, l.negated = term.excluded := by
  cases hexcluded : term.excluded with
  | false => exact (isChoice_of_mem_group? hexcluded h).negated_eq_false
  | true => exact (isRefusal_of_mem_group? hexcluded h).negated_eq_true

/-- The leaves of one polarity are those of the groups of one kind of terms. -/
theorem filter_leafList_groupsOf (fields : FieldSet) (options : Options) (terms : List Term) (b : Bool) :
    (Predicate.all (groupsOf fields options terms)).leafList.filter (fun l => l.negated == b) =
      (Predicate.all (groupsOf fields options (terms.filter fun t => t.excluded == b))).leafList := by
  rw [Predicate.leafList_all fun _ => isProper_of_mem_groupsOf,
    Predicate.leafList_all fun _ => isProper_of_mem_groupsOf]
  unfold groupsOf
  induction terms with
  | nil => rfl
  | cons t terms ih =>
    cases hgroup : group? fields options t with
    | none =>
      rw [List.filterMap_cons_none hgroup, ih, List.filter_cons]
      split
      · rw [List.filterMap_cons_none hgroup]
      · rfl
    | some g =>
      have hnegated := negated_eq_excluded hgroup
      rw [List.filterMap_cons_some hgroup, List.flatMap_cons, List.filter_append, ih, List.filter_cons]
      split
      · rename_i hkind
        have hall : g.leafList.filter (fun l => l.negated == b) = g.leafList :=
          List.filter_eq_self.mpr fun l hl => hnegated l hl ▸ hkind
        rw [List.filterMap_cons_some hgroup, List.flatMap_cons, hall]
      · rename_i hkind
        have hnone : g.leafList.filter (fun l => l.negated == b) = [] :=
          List.filter_eq_nil_iff.mpr fun l hl => hnegated l hl ▸ hkind
        rw [hnone, List.nil_append]

theorem length_leafList_noField (fields : FieldSet) (p : Pattern) :
    (noField fields p).leafList.length = fields.fields.length := by
  have hproper : ∀ c ∈ fields.fields.map fun f => Predicate.not (.test ⟨.known f, p⟩), c.IsProper :=
    List.forall_mem_map.mpr fun f _ => .not (.test f p)
  rw [noField, Predicate.leafList_all hproper, List.flatMap_map]
  simp [List.length_flatMap, List.map_const']

theorem length_leafList_excluded {terms : List Term} (h : ∀ t ∈ terms, t.excluded = true) :
    (Predicate.all (groupsOf fields options terms)).leafList.length = fields.fields.length * terms.length := by
  rw [Predicate.leafList_all fun _ => isProper_of_mem_groupsOf]
  unfold groupsOf
  induction terms with
  | nil => rfl
  | cons t terms ih =>
    obtain ⟨ht, hterms⟩ := List.forall_mem_cons.mp h
    rw [List.filterMap_cons_some (group?_of_excluded ht), List.flatMap_cons, List.length_append,
      length_leafList_noField, ih hterms, List.length_cons, Nat.mul_succ, Nat.add_comm]

end Groups

/-- With expansion the tests of the ranking are the leaves under the groups of the terms that are not excluded, in the
order of the tree, and there is one for each field and each pattern of a sub-term of such a term. The other leaves are
those under the groups of the excluded terms, one for each field and each of these terms. -/
theorem ranking_eq_included_leaves (fields : FieldSet) (exact : Switch) (marker : String) (tokens : List String) :
    ∃ plan leaves tests, compile fields ⟨exact, .on, marker⟩ tokens = .ok plan ∧
      plan.groups = groupsOf fields ⟨exact, .on, marker⟩ (termsOf marker tokens) ∧
      plan.predicate.leaves = .ok leaves ∧ plan.ranking = some tests ∧
      tests.length = fields.fields.length *
        ((((termsOf marker tokens).filter fun t => !t.excluded).flatMap fun t => Text.subterms t.text).map
          patternCount).sum ∧
      tests = (leaves.filter fun l => !l.negated).map Leaf.test ∧
      (Predicate.all (groupsOf fields ⟨exact, .on, marker⟩
        ((termsOf marker tokens).filter fun t => !t.excluded))).leaves = .ok (leaves.filter fun l => !l.negated) ∧
      (Predicate.all (groupsOf fields ⟨exact, .on, marker⟩
        ((termsOf marker tokens).filter fun t => t.excluded))).leaves = .ok (leaves.filter fun l => l.negated) ∧
      (leaves.filter fun l => l.negated).length =
        fields.fields.length * (termsOf marker tokens).countP Term.excluded := by
  have hproper : ∀ terms, (Predicate.all (groupsOf fields ⟨exact, .on, marker⟩ terms)).IsProper :=
    isProper_groups fields ⟨exact, .on, marker⟩
  have hincluded := filter_leafList_groupsOf fields ⟨exact, .on, marker⟩ (termsOf marker tokens) false
  have hexcluded := filter_leafList_groupsOf fields ⟨exact, .on, marker⟩ (termsOf marker tokens) true
  simp only [beq_false, beq_true] at hincluded hexcluded
  refine ⟨_, _, _, compile_eq_planOver fields _ tokens, rfl, (hproper _).leaves_eq, rfl, ?_,
    flatMap_countedTests_eq fields _ _, ?_, ?_, ?_⟩
  · have hpatterns : ∀ s : String, termPatterns ⟨exact, .on, marker⟩ s =
        (Text.subterms s).flatMap (subtermPatterns exact.isOn) := fun _ => rfl
    rw [countedTests_groupsOf, ← testsFor_flatMap, length_testsFor]
    simp only [hpatterns, ← List.flatMap_assoc, List.length_flatMap, length_subtermPatterns]
  · rw [hincluded]
    exact (hproper _).leaves_eq
  · rw [hexcluded]
    exact (hproper _).leaves_eq
  · rw [hexcluded, length_leafList_excluded fun t ht => (List.mem_filter.mp ht).2, List.countP_eq_length_filter]

example : (compile (.contentOnly []) ⟨.off, .on, "-"⟩ ["東京タワー", "-foo", "、"]).toOption.map
    (fun plan => plan.ranking.map List.length) = some (some 15) := by decide +kernel

end TermSearch.Query

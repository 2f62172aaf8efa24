import Mathlib.Tactic.Choose
import TermSearch.Proofs.Satisfaction
import TermSearch.Proofs.Traversal

/-! The plans that come out of compiling a query. Compiling never fails, and every test of the plan, for
matching or for ranking, names a field. A search with such a plan never fails on complete records. -/
namespace TermSearch.Query

/-- A plan whose tests all name a field. -/
structure Plan.IsProper (plan : Plan) : Prop where
  predicate : plan.predicate.IsProper
  ranking : ∀ tests, plan.ranking = some tests → ∀ t ∈ tests, t.IsProper

theorem isProper_anyField (fields : FieldSet) (patterns : List Pattern) :
    (anyField fields patterns).IsProper := by
  refine .any fun c hc => ?_
  obtain ⟨p, -, hc⟩ := List.mem_flatMap.mp hc
  obtain ⟨f, -, rfl⟩ := List.mem_map.mp hc
  exact .test f p

theorem isProper_noField (fields : FieldSet) (p : Pattern) : (noField fields p).IsProper := by
  refine .all fun c hc => ?_
  obtain ⟨f, -, rfl⟩ := List.mem_map.mp hc
  exact .not (.test f p)

/-- What holds of every group of tests that a term can give rise to, and of a choice among such groups, holds of the
group of the term. -/
theorem group?_cases {P : Predicate → Prop} {fields : FieldSet} {options : Options} {term : Term}
    (excluded : P (noField fields (.containing term.text)))
    (literal : P (anyField fields [literalPattern options.exact term.text]))
    (subterm : ∀ s ∈ Text.subterms term.text, P (anyField fields (subtermPatterns options.exact.isOn s)))
    (choice : ∀ groups, (∀ c ∈ groups, P c) → P (.any groups)) {g : Predicate}
    (h : g ∈ group? fields options term) : P g := by
  have hsubterms : ∀ c ∈ (Text.subterms term.text).map fun s => anyField fields (subtermPatterns options.exact.isOn s),
      P c := List.forall_mem_map.mpr subterm
  rw [group?] at h
  split at h
  · rw [expandedGroup?] at h
    split at h
    · obtain rfl := Option.some.inj h
      exact excluded
    · split at h
      · cases h
      · rename_i group hgroups
        obtain rfl := Option.some.inj h
        exact hsubterms group (hgroups ▸ List.mem_singleton_self _)
      · obtain rfl := Option.some.inj h
        exact choice _ hsubterms
  · obtain rfl := Option.some.inj h
    rw [literalGroup]
    split
    · exact excluded
    · exact literal

/-- Excluded terms stay literal, with expansion or without. -/
theorem group?_of_excluded {fields : FieldSet} {options : Options} {term : Term} (h : term.excluded = true) :
    group? fields options term = some (noField fields (.containing term.text)) := by
  rw [group?, expandedGroup?, literalGroup, h]
  simp

theorem isProper_of_mem_group? {fields : FieldSet} {options : Options} {term : Term} {g : Predicate}
    (h : g ∈ group? fields options term) : g.IsProper :=
  group?_cases (isProper_noField fields _) (isProper_anyField fields _) (fun _ _ => isProper_anyField fields _)
    (fun _ hgroups => .any hgroups) h

theorem planOf_eq {fields : FieldSet} {options : Options} {terms : List Term} {tests : List Test}
    (h : (Predicate.all (terms.filterMap (group? fields options))).rankingTests = .ok tests) :
    planOf fields options terms = .ok {
      predicate := .all (terms.filterMap (group? fields options))
      ranking := if options.expand.isOn then some tests else none
      titlePatterns := terms.filterMap (titlePattern? options) } := by
  unfold planOf
  dsimp only
  rw [h]
  cases options.expand.isOn <;> rfl

theorem isProper_groups (fields : FieldSet) (options : Options) (terms : List Term) :
    (Predicate.all (terms.filterMap (group? fields options))).IsProper := by
  refine .all fun c hc => ?_
  obtain ⟨t, -, hg⟩ := List.mem_filterMap.mp hc
  exact isProper_of_mem_group? hg

/-- The parts of the plan of a query. -/
theorem exists_compile_eq (fields : FieldSet) (options : Options) (tokens : List String) :
    ∃ tests, (Predicate.all ((termsOf options.marker tokens).filterMap (group? fields options))).rankingTests =
        .ok tests ∧
      compile fields options tokens = .ok {
        predicate := .all ((termsOf options.marker tokens).filterMap (group? fields options))
        ranking := if options.expand.isOn then some tests else none
        titlePatterns := (termsOf options.marker tokens).filterMap (titlePattern? options) } := by
  obtain ⟨tests, htests, -⟩ := (isProper_groups fields options (termsOf options.marker tokens)).rankingTests_isOk
  exact ⟨tests, htests, planOf_eq htests⟩

/-- Every query has a plan, with one group for each usable term. -/
theorem exists_compile (fields : FieldSet) (options : Options) (tokens : List String) :
    ∃ plan, compile fields options tokens = .ok plan ∧ plan.IsProper ∧
      plan.predicate = .all ((termsOf options.marker tokens).filterMap (group? fields options)) := by
  have hproper := isProper_groups fields options (termsOf options.marker tokens)
  obtain ⟨tests, htests, hcompile⟩ := exists_compile_eq fields options tokens
  refine ⟨_, hcompile, ⟨hproper, fun ranking hranking => ?_⟩, rfl⟩
  obtain ⟨known, hknown, hfields⟩ := hproper.rankingTests_isOk
  obtain rfl := Except.ok.inj (hknown.symm.trans htests)
  obtain ⟨-, heq⟩ := Option.ite_none_right_eq_some.mp hranking
  exact Option.some.inj heq ▸ hfields

theorem exists_countHolding {tests : List Test} (h : ∀ t ∈ tests, t.IsProper) (metaKeys : List String)
    (record : Record) : ∃ n, countHolding metaKeys record.toDraft tests = .ok n := by
  induction tests with
  | nil => exact ⟨0, rfl⟩
  | cons t rest ih =>
    obtain ⟨n, hn⟩ := ih fun u hu => h u (List.mem_cons_of_mem _ hu)
    obtain ⟨field, hfield⟩ := h t List.mem_cons_self
    obtain ⟨_, p⟩ := t
    subst hfield
    exact ⟨_, by rw [countHolding, Test.holds_known, hn]; rfl⟩

theorem Plan.hit?_eq {plan : Plan} {metaKeys : List String} {draft : Draft} {b : Bool} {n : Nat}
    (hb : plan.predicate.eval metaKeys draft = .ok b) (hn : score metaKeys draft plan.ranking = .ok n)
    (scope : Scope) : plan.hit? metaKeys scope draft =
      .ok (if scope.admits draft && b then some ⟨draft, n⟩ else none) := by
  rw [Plan.hit?, hb, hn]
  cases scope.admits draft <;> cases b <;> rfl

/-- A search orders the hits of the records that it finds, where no hit lacks its title. -/
theorem Plan.search_map_eq {α : Type} {plan : Plan} {metaKeys : List String} {scope : Scope} {xs : List α}
    {draftAt : α → Draft} {found : α → Bool} {hitAt : α → Hit}
    (hhit : ∀ x ∈ xs, plan.hit? metaKeys scope (draftAt x) = .ok (if found x then some (hitAt x) else none))
    (htitles : ∀ x ∈ xs, (hitAt x).record.title.isSome = true) :
    plan.search metaKeys scope (xs.map draftAt) = .ok (sortByKey plan.hitKey ((xs.filter found).map hitAt)) := by
  have hfound : (xs.map draftAt).mapM (plan.hit? metaKeys scope) =
      .ok (xs.map fun x => if found x then some (hitAt x) else none) := by
    rw [List.mapM_map]
    exact mapM_eq_ok_map hhit
  have hhits : (xs.map fun x => if found x then some (hitAt x) else none).filterMap id =
      (xs.filter found).map hitAt := by
    rw [List.filterMap_map]
    exact filterMap_ite found hitAt xs
  have hchecks : ∀ hit ∈ (xs.filter found).map hitAt, plan.checkTitle hit = .ok () := by
    intro hit hmem
    obtain ⟨x, hx, rfl⟩ := List.mem_map.mp hmem
    rw [Plan.checkTitle, Option.isNone_eq_false_iff.mpr (htitles x (List.mem_filter.mp hx).1)]
    rfl
  rw [Plan.search, hfound]
  change (do List.forM (List.filterMap id _) plan.checkTitle; return sortByKey plan.hitKey _) = _
  rw [hhits, forM_eq_ok hchecks]
  rfl

namespace Plan.IsProper

variable {plan : Plan}

theorem exists_score (h : plan.IsProper) (metaKeys : List String) (record : Record) :
    ∃ n, score metaKeys record.toDraft plan.ranking = .ok n := by
  cases hranking : plan.ranking with
  | none => exact ⟨0, rfl⟩
  | some tests => exact exists_countHolding (h.ranking tests hranking) metaKeys record

/-- A search in complete records succeeds, and finds those that it may return and that satisfy the plan. -/
theorem exists_search (h : plan.IsProper) (metaKeys : List String) (scope : Scope) (records : List Record) :
    ∃ hits, plan.search metaKeys scope (records.map Record.toDraft) = .ok hits ∧
      ∀ draft, (∃ hit ∈ hits, hit.record = draft) ↔ ∃ record ∈ records, record.toDraft = draft ∧
        scope.admits draft = true ∧ plan.predicate.Holds metaKeys record := by
  choose answer hanswer using h.predicate.eval_isOk metaKeys
  choose rank hrank using h.exists_score metaKeys
  have hsearch := Plan.search_map_eq (fun record (_ : record ∈ records) =>
    Plan.hit?_eq (hanswer record) (hrank record) scope) fun _ _ => rfl
  refine ⟨_, hsearch, fun draft => ?_⟩
  simp only [mem_sortByKey, List.mem_map, List.mem_filter, Bool.and_eq_true, Predicate.Holds, hanswer,
    Except.ok.injEq]
  constructor
  · rintro ⟨_, ⟨record, ⟨hrecord, hadmits, hholds⟩, rfl⟩, rfl⟩
    exact ⟨record, hrecord, rfl, hadmits, hholds⟩
  · rintro ⟨record, hrecord, rfl, hadmits, hholds⟩
    exact ⟨_, ⟨record, ⟨hrecord, hadmits, hholds⟩, rfl⟩, rfl⟩

end Plan.IsProper

end TermSearch.Query

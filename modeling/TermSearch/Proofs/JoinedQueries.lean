import TermSearch.Proofs.ModeNesting

/-! Queries put together. Every usable token adds a group, and with expansion the tests of that group, or without it
a title pattern; so the parts of the plan of two token lists together are the parts of their two plans, one after the
other. A record satisfies the joint plan where it satisfies both, and its ranks add up. No search depends on the order
of the tokens, for nothing that it computes depends on the order of groups, tests or title patterns. -/
namespace TermSearch.Query

namespace Predicate

/-- The leaves of a predicate, where they can be listed. -/
def leafList (p : Predicate) : List Leaf := p.leaves.toOption.getD []

@[simp] theorem leafList_test (t : Test) : (test t).leafList = [⟨t, false⟩] := rfl

@[simp] theorem leafList_not_test (t : Test) : (not (test t)).leafList = [⟨t, true⟩] := rfl

theorem IsProper.leaves_eq {p : Predicate} (h : p.IsProper) : p.leaves = .ok p.leafList := by
  obtain ⟨ls, hls, -⟩ := h.leavesUnder_isOk false
  rw [leafList, leaves, hls]
  rfl

theorem IsProper.isProper_of_mem_leafList {p : Predicate} (h : p.IsProper) : ∀ l ∈ p.leafList, l.test.IsProper := by
  obtain ⟨ls, hls, hproper⟩ := h.leavesUnder_isOk false
  rwa [leafList, leaves, hls]

theorem leavesOfAll_eq {children : List Predicate} (h : ∀ c ∈ children, c.IsProper) :
    leavesOfAll false children = .ok (children.flatMap leafList) := by
  induction children with
  | nil => rfl
  | cons child rest ih =>
    have hchild : leavesUnder false child = .ok child.leafList := (h child List.mem_cons_self).leaves_eq
    rw [leavesOfAll, hchild, ih fun c hc => h c (List.mem_cons_of_mem _ hc)]
    rfl

theorem leafList_all {children : List Predicate} (h : ∀ c ∈ children, c.IsProper) :
    (all children).leafList = children.flatMap leafList := by
  rw [leafList, leaves, leavesUnder, leavesOfAll_eq h]
  rfl

theorem leafList_any {children : List Predicate} (h : ∀ c ∈ children, c.IsProper) :
    (any children).leafList = children.flatMap leafList := by
  rw [leafList, leaves, leavesUnder, leavesOfAll_eq h]
  rfl

/-- The tests of a predicate that count toward the rank of a record, where they can be listed. -/
def countedTests (p : Predicate) : List Test := p.rankingTests.toOption.getD []

theorem IsProper.rankingTests_eq {p : Predicate} (h : p.IsProper) :
    p.rankingTests = .ok ((p.leafList.filter fun l => !l.negated).map Leaf.test) := by
  rw [rankingTests, h.leaves_eq]
  rfl

theorem IsProper.countedTests_eq {p : Predicate} (h : p.IsProper) :
    p.countedTests = (p.leafList.filter fun l => !l.negated).map Leaf.test := by
  rw [countedTests, h.rankingTests_eq]
  rfl

/-- A conjunction counts the tests of its children. -/
theorem rankingTests_all {children : List Predicate} (h : ∀ c ∈ children, c.IsProper) :
    (all children).rankingTests = .ok (children.flatMap countedTests) := by
  have hcounted : children.flatMap countedTests =
      children.flatMap fun c => (c.leafList.filter fun l => !l.negated).map Leaf.test :=
    List.flatMap_congr fun c hc => (h c hc).countedTests_eq
  rw [(IsProper.all h).rankingTests_eq, leafList_all h, List.filter_flatMap, List.map_flatMap, hcounted]

end Predicate

/-- The groups that some terms give rise to. -/
def groupsOf (fields : FieldSet) (options : Options) (terms : List Term) : List Predicate :=
  terms.filterMap (group? fields options)

/-- The plan of a query with some terms, part by part. -/
def planOver (fields : FieldSet) (options : Options) (terms : List Term) : Plan where
  predicate := .all (groupsOf fields options terms)
  ranking := if options.expand.isOn then some ((groupsOf fields options terms).flatMap Predicate.countedTests) else none
  titlePatterns := terms.filterMap (titlePattern? options)

theorem isProper_of_mem_groupsOf {fields : FieldSet} {options : Options} {terms : List Term} {g : Predicate}
    (h : g ∈ groupsOf fields options terms) : g.IsProper := by
  obtain ⟨t, -, hg⟩ := List.mem_filterMap.mp h
  exact isProper_of_mem_group? hg

theorem compile_eq_planOver (fields : FieldSet) (options : Options) (tokens : List String) :
    compile fields options tokens = .ok (planOver fields options (termsOf options.marker tokens)) :=
  planOf_eq (Predicate.rankingTests_all fun _ => isProper_of_mem_groupsOf)

theorem isProper_planOver (fields : FieldSet) (options : Options) (terms : List Term) :
    (planOver fields options terms).IsProper := by
  have hgroups := isProper_groups fields options terms
  refine ⟨hgroups, fun tests htests => ?_⟩
  obtain ⟨-, heq⟩ := Option.ite_none_right_eq_some.mp htests
  obtain ⟨known, hknown, hfields⟩ := hgroups.rankingTests_isOk
  have hcounted := Predicate.rankingTests_all fun (g : Predicate) (hg : g ∈ groupsOf fields options terms) =>
    isProper_of_mem_groupsOf hg
  obtain rfl := Except.ok.inj (hcounted.symm.trans hknown)
  exact Option.some.inj heq ▸ hfields

section Append

variable (fields : FieldSet) (options : Options) (first second : List Term)

@[simp] theorem groupsOf_append : groupsOf fields options (first ++ second) =
    groupsOf fields options first ++ groupsOf fields options second :=
  List.filterMap_append

/-- A record satisfies the joint plan where it satisfies both plans. -/
theorem eval_planOver_append (record : Record) : ∃ a b,
    (planOver fields options first).predicate.eval fields.metaKeys record.toDraft = .ok a ∧
    (planOver fields options second).predicate.eval fields.metaKeys record.toDraft = .ok b ∧
    (planOver fields options (first ++ second)).predicate.eval fields.metaKeys record.toDraft = .ok (a && b) := by
  obtain ⟨a, ha⟩ := (isProper_planOver fields options first).predicate.eval_isOk fields.metaKeys record
  obtain ⟨b, hb⟩ := (isProper_planOver fields options second).predicate.eval_isOk fields.metaKeys record
  refine ⟨a, b, ha, hb, ?_⟩
  rw [(isProper_planOver fields options first).predicate.eval_eq_ok_iff] at ha
  rw [(isProper_planOver fields options second).predicate.eval_eq_ok_iff] at hb
  rw [(isProper_planOver fields options _).predicate.eval_eq_ok_iff, Bool.and_eq_true, ha, hb]
  simp only [planOver, groupsOf_append, Predicate.holds_all_iff, List.forall_mem_append]

end Append

/-- Whether a record passes a test; it passes none that names no field. -/
def Test.passes (metaKeys : List String) (record : Record) (t : Test) : Bool :=
  match t.field with
  | .known field => (field.textsOf metaKeys record).any t.pattern.accepts
  | .unknown _ => false

theorem Test.IsProper.holds_eq {t : Test} (h : t.IsProper) (metaKeys : List String) (record : Record) :
    t.holds metaKeys record.toDraft = .ok (t.passes metaKeys record) := by
  obtain ⟨field, hfield⟩ := h
  obtain ⟨_, p⟩ := t
  subst hfield
  exact Test.holds_known metaKeys record field p

theorem countHolding_eq_countP {tests : List Test} (h : ∀ t ∈ tests, t.IsProper) (metaKeys : List String)
    (record : Record) :
    countHolding metaKeys record.toDraft tests = .ok (tests.countP (Test.passes metaKeys record)) := by
  induction tests with
  | nil => rfl
  | cons t rest ih =>
    rw [countHolding, (h t List.mem_cons_self).holds_eq, ih fun u hu => h u (List.mem_cons_of_mem _ hu),
      List.countP_cons, Nat.add_comm]
    rfl

/-- The rank that a record has in a query with some terms. -/
def rankOver (fields : FieldSet) (options : Options) (terms : List Term) (record : Record) : Nat :=
  if options.expand.isOn then
    ((groupsOf fields options terms).flatMap Predicate.countedTests).countP (Test.passes fields.metaKeys record)
  else 0

theorem score_planOver (fields : FieldSet) (options : Options) (terms : List Term) (record : Record) :
    score fields.metaKeys record.toDraft (planOver fields options terms).ranking =
      .ok (rankOver fields options terms record) := by
  have hproper := (isProper_planOver fields options terms).ranking
  unfold rankOver
  cases hexpand : options.expand.isOn with
  | false => simp [planOver, hexpand, score]
  | true =>
    simp only [planOver, hexpand, if_true] at hproper ⊢
    exact countHolding_eq_countP (hproper _ rfl) fields.metaKeys record

theorem rankOver_append (fields : FieldSet) (options : Options) (first second : List Term) (record : Record) :
    rankOver fields options (first ++ second) record =
      rankOver fields options first record + rankOver fields options second record := by
  unfold rankOver
  split
  · rw [groupsOf_append, List.flatMap_append, List.countP_append]
  · rfl

section Order

/-- Two plans that accept the same records, rank them alike and bring the same titles to the front find the same hits
in the same order. -/
theorem Plan.search_congr {p q : Plan} {metaKeys : List String} (hp : p.IsProper)
    (heval : ∀ record : Record, p.predicate.eval metaKeys record.toDraft = q.predicate.eval metaKeys record.toDraft)
    (hscore : ∀ record : Record, score metaKeys record.toDraft p.ranking = score metaKeys record.toDraft q.ranking)
    (htitle : ∀ title, p.titleMisses title = q.titleMisses title) (scope : Scope) (records : List Record) :
    p.search metaKeys scope (records.map Record.toDraft) = q.search metaKeys scope (records.map Record.toDraft) := by
  choose answer hanswer using hp.predicate.eval_isOk metaKeys
  choose rank hrank using hp.exists_score metaKeys
  have hkey : p.hitKey = q.hitKey := by
    funext hit
    rw [Plan.hitKey, Plan.hitKey, htitle]
  have hpsearch := Plan.search_map_eq (fun record (_ : record ∈ records) =>
    Plan.hit?_eq (hanswer record) (hrank record) scope) fun _ _ => rfl
  have hqsearch := Plan.search_map_eq (fun record (_ : record ∈ records) =>
    Plan.hit?_eq ((heval record).symm.trans (hanswer record)) ((hscore record).symm.trans (hrank record)) scope)
    fun _ _ => rfl
  rw [hpsearch, hqsearch, hkey]

variable (fields : FieldSet) (options : Options) {terms others : List Term}

theorem eval_planOver_perm (h : terms.Perm others) (record : Record) :
    (planOver fields options terms).predicate.eval fields.metaKeys record.toDraft =
      (planOver fields options others).predicate.eval fields.metaKeys record.toDraft := by
  obtain ⟨a, ha⟩ := (isProper_planOver fields options terms).predicate.eval_isOk fields.metaKeys record
  have hgroups : (groupsOf fields options terms).Perm (groupsOf fields options others) := h.filterMap _
  have hholds : (planOver fields options terms).predicate.Holds fields.metaKeys record ↔
      (planOver fields options others).predicate.Holds fields.metaKeys record := by
    simp only [planOver, Predicate.holds_all_iff, hgroups.mem_iff]
  rw [ha, eq_comm, (isProper_planOver fields options others).predicate.eval_eq_ok_iff, ← hholds]
  exact (isProper_planOver fields options terms).predicate.eval_eq_ok_iff.mp ha

theorem rankOver_perm (h : terms.Perm others) (record : Record) :
    rankOver fields options terms record = rankOver fields options others record := by
  have hgroups : (groupsOf fields options terms).Perm (groupsOf fields options others) := h.filterMap _
  rw [rankOver, rankOver, (hgroups.flatMap_right _).countP_eq]

theorem titleMisses_perm (h : terms.Perm others) (title : Option String) :
    (planOver fields options terms).titleMisses title = (planOver fields options others).titleMisses title := by
  have hpatterns : (terms.filterMap (titlePattern? options)).Perm (others.filterMap (titlePattern? options)) :=
    h.filterMap _
  unfold Plan.titleMisses
  dsimp only [planOver]
  simp only [hpatterns.isEmpty_eq, hpatterns.any_eq]

theorem search_planOver_perm (h : terms.Perm others) (scope : Scope) (records : List Record) :
    (planOver fields options terms).search fields.metaKeys scope (records.map Record.toDraft) =
      (planOver fields options others).search fields.metaKeys scope (records.map Record.toDraft) := by
  refine Plan.search_congr (isProper_planOver fields options terms) (eval_planOver_perm fields options h) ?_
    (titleMisses_perm fields options h) scope records
  intro record
  rw [score_planOver, score_planOver, rankOver_perm fields options h]

end Order

/-- How the plan of a joint query stands to the plans of its parts. A record satisfies it where it satisfies both, its
rank is the sum of the two, and a title that a pattern of one of them accepts is brought to the front. -/
structure Plan.IsJoin (metaKeys : List String) (p q both : Plan) : Prop where
  eval : ∀ record : Record, ∃ a b, p.predicate.eval metaKeys record.toDraft = .ok a ∧
    q.predicate.eval metaKeys record.toDraft = .ok b ∧ both.predicate.eval metaKeys record.toDraft = .ok (a && b)
  score : ∀ record : Record, ∃ m n, Query.score metaKeys record.toDraft p.ranking = .ok m ∧
    Query.score metaKeys record.toDraft q.ranking = .ok n ∧
    Query.score metaKeys record.toDraft both.ranking = .ok (m + n)
  title : ∀ title, (both.titlePatterns.any fun pattern => pattern.accepts title) =
    ((p.titlePatterns.any fun pattern => pattern.accepts title) ||
      q.titlePatterns.any fun pattern => pattern.accepts title)

/-- What a joint plan finds, both of its parts find. -/
theorem Plan.IsJoin.search {metaKeys : List String} {p q both : Plan} (h : Plan.IsJoin metaKeys p q both)
    (hp : p.IsProper) (hq : q.IsProper) (hboth : both.IsProper) (scope : Scope) (records : List Record) :
    ∃ left right hits, p.search metaKeys scope (records.map Record.toDraft) = .ok left ∧
      q.search metaKeys scope (records.map Record.toDraft) = .ok right ∧
      both.search metaKeys scope (records.map Record.toDraft) = .ok hits ∧
      ∀ hit ∈ hits, (∃ other ∈ left, other.record = hit.record) ∧ ∃ other ∈ right, other.record = hit.record := by
  obtain ⟨left, hleft, hinLeft⟩ := hp.exists_search metaKeys scope records
  obtain ⟨right, hright, hinRight⟩ := hq.exists_search metaKeys scope records
  obtain ⟨hits, hhits, hinHits⟩ := hboth.exists_search metaKeys scope records
  refine ⟨left, right, hits, hleft, hright, hhits, fun hit hmem => ?_⟩
  obtain ⟨record, hrecord, hdraft, hadmits, hholds⟩ := (hinHits hit.record).mp ⟨hit, hmem, rfl⟩
  obtain ⟨a, b, ha, hb, hab⟩ := h.eval record
  obtain ⟨rfl, rfl⟩ : a = true ∧ b = true := by
    rw [Predicate.Holds, hab, Except.ok.injEq, Bool.and_eq_true] at hholds
    exact hholds
  exact ⟨(hinLeft hit.record).mpr ⟨record, hrecord, hdraft, hadmits, ha⟩,
    (hinRight hit.record).mpr ⟨record, hrecord, hdraft, hadmits, hb⟩⟩

theorem isJoin_planOver (fields : FieldSet) (options : Options) (first second : List Term) :
    Plan.IsJoin fields.metaKeys (planOver fields options first) (planOver fields options second)
      (planOver fields options (first ++ second)) where
  eval := eval_planOver_append fields options first second
  score record := by
    refine ⟨_, _, score_planOver fields options first record, score_planOver fields options second record, ?_⟩
    rw [score_planOver, rankOver_append]
  title title := by
    simp only [planOver, List.filterMap_append, List.any_append]

/-- The plan of two token lists together joins their two plans, so it finds no record that one of them does not find.
A search with any rearrangement of the tokens returns the same hits with the same ranks in the same order. -/
theorem compile_append (fields : FieldSet) (options : Options) (first second : List String) :
    ∃ p q both, compile fields options first = .ok p ∧ compile fields options second = .ok q ∧
      compile fields options (first ++ second) = .ok both ∧ Plan.IsJoin fields.metaKeys p q both ∧
      (∀ (scope : Scope) (records : List Record), ∃ left right hits,
        p.search fields.metaKeys scope (records.map Record.toDraft) = .ok left ∧
        q.search fields.metaKeys scope (records.map Record.toDraft) = .ok right ∧
        both.search fields.metaKeys scope (records.map Record.toDraft) = .ok hits ∧
        ∀ hit ∈ hits, (∃ other ∈ left, other.record = hit.record) ∧ ∃ other ∈ right, other.record = hit.record) ∧
      ∀ tokens, tokens.Perm (first ++ second) → ∃ plan, compile fields options tokens = .ok plan ∧
        ∀ (scope : Scope) (records : List Record),
          plan.search fields.metaKeys scope (records.map Record.toDraft) =
            both.search fields.metaKeys scope (records.map Record.toDraft) := by
  have hboth := compile_eq_planOver fields options (first ++ second)
  rw [termsOf_append] at hboth
  have hjoin := isJoin_planOver fields options (termsOf options.marker first) (termsOf options.marker second)
  refine ⟨_, _, _, compile_eq_planOver fields options first, compile_eq_planOver fields options second, hboth, hjoin,
    hjoin.search (isProper_planOver ..) (isProper_planOver ..) (isProper_planOver ..), fun tokens htokens => ?_⟩
  refine ⟨_, compile_eq_planOver fields options tokens, search_planOver_perm fields options ?_⟩
  rw [← termsOf_append]
  exact htokens.filterMap _

end TermSearch.Query

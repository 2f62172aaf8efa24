import TermSearch.Proofs.SelectMeaning

/-! The shape of the plans that come out of compiling a query, whatever the tokens are. No pattern has an empty
segment, for neither terms nor sub-terms nor fragments are empty; a pattern stands for a whole text only in an exact
query, and never under a negation; and the groups follow the usable terms. No later step fails on such a plan. -/
namespace TermSearch.Text

theorem ne_empty_of_mem_subterms {term subterm : String} (h : subterm ∈ subterms term) : subterm ≠ "" := by
  obtain ⟨piece, hpiece, rfl⟩ := List.mem_map.mp h
  have hne : piece ≠ [] := by simpa using (List.mem_filter.mp hpiece).2
  exact mt String.ofList_eq_empty_iff.mp hne

end TermSearch.Text

namespace TermSearch.Query

theorem Term.text_ne_empty {marker token : String} {t : Term} (h : Term.ofToken? marker token = some t) :
    t.text ≠ "" := by
  have hkept : ∀ {chars : List Char} {excluded : Bool},
      (if chars.isEmpty then none else some (Term.mk (String.ofList chars) excluded)) = some t → t.text ≠ "" := by
    intro chars excluded hsome
    split at hsome
    · cases hsome
    · rename_i hne
      obtain rfl := Option.some.inj hsome
      exact mt String.ofList_eq_empty_iff.mp (by simpa using hne)
  unfold Term.ofToken? at h
  dsimp only at h
  split at h
  · exact hkept h
  · exact hkept h

/-- No fragment is empty: a run is kept only where it has a character. -/
theorem ne_nil_of_mem_fragmentsFrom {run s f : List Char} (h : f ∈ fragmentsFrom run s) : f ≠ [] := by
  -- a run is flushed at a wide character and at the end
  have hpending : ∀ {run f : List Char}, f ∈ pendingRun run → f ≠ [] := by
    intro run f hf
    cases run with
    | nil => cases hf
    | cons c run => exact List.mem_singleton.mp hf ▸ List.cons_ne_nil c run
  induction s generalizing run with
  | nil => exact hpending h
  | cons c rest ih =>
    rw [fragmentsFrom] at h
    split at h
    · rcases List.mem_append.mp h with h | h
      · rcases List.mem_append.mp h with h | h
        · exact hpending h
        · cases rest with
          | nil => cases h
          | cons d rest =>
            rw [widePair] at h
            split at h
            · exact List.mem_singleton.mp h ▸ List.cons_ne_nil c [d]
            · cases h
      · exact ih h
    · exact ih h

theorem ne_empty_of_mem_fragments {subterm f : String} (h : f ∈ fragments subterm) : f ≠ "" := by
  obtain ⟨chars, hchars, rfl⟩ := List.mem_map.mp h
  exact mt String.ofList_eq_empty_iff.mp (ne_nil_of_mem_fragmentsFrom hchars)

theorem sublist_of_mem_leaveOneOut {α : Type} {xs : List α} {p : α × List α} (h : p ∈ leaveOneOut xs) :
    p.2.Sublist xs := by
  induction xs generalizing p with
  | nil => cases h
  | cons x rest ih =>
    rcases List.mem_cons.mp h with rfl | h
    · exact List.sublist_cons_self x rest
    · obtain ⟨q, hq, rfl⟩ := List.mem_map.mp h
      exact (ih hq).cons_cons x

namespace Pattern

/-- A pattern that passes the checks on segments. Only an exact query has patterns that stand for a whole text. -/
structure IsWellFormed (exact : Bool) (p : Pattern) : Prop where
  checked : ofSegments? p.segments p.form = .ok p
  nonempty : ∀ segment ∈ p.segments, segment ≠ ""
  whole : p.form = .on → exact = true ∧ p.segments.length = 1

variable {exact : Bool}

theorem any_isEmpty_eq_false {segments : List String} (h : ∀ segment ∈ segments, segment ≠ "") :
    (segments.any fun segment => segment.isEmpty) = false := by
  refine List.any_eq_false.mpr fun segment hsegment hempty => h segment hsegment ?_
  simpa using hempty

theorem isWellFormed_inOrder {segments : List String} (h : ∀ segment ∈ segments, segment ≠ "") (unset : Bool) :
    (inOrder segments unset).IsWellFormed exact := by
  refine ⟨?_, h, ?_⟩
  · -- the match on a single segment lies in the branch of whole texts, which is not taken
    unfold ofSegments?
    rw [Pattern.segments, any_isEmpty_eq_false h]
    cases unset <;> rfl
  · cases unset <;> exact fun hform => nomatch hform

theorem isWellFormed_whole {text : String} (h : text ≠ "") (hexact : exact = true) :
    (whole text).IsWellFormed exact := by
  have hne : ∀ segment ∈ (whole text).segments, segment ≠ "" :=
    fun segment hsegment => List.mem_singleton.mp hsegment ▸ h
  refine ⟨?_, hne, fun _ => ⟨hexact, rfl⟩⟩
  unfold ofSegments?
  rw [any_isEmpty_eq_false hne]
  rfl

theorem isWellFormed_containing {text : String} (h : text ≠ "") : (containing text).IsWellFormed exact :=
  isWellFormed_inOrder (fun _ hsegment => List.mem_singleton.mp hsegment ▸ h) false

end Pattern

theorem isWellFormed_literalPattern {exact : Switch} {text : String} (h : text ≠ "") :
    (literalPattern exact text).IsWellFormed exact.isOn := by
  unfold literalPattern
  split
  · rename_i hexact
    exact Pattern.isWellFormed_whole h hexact
  · exact Pattern.isWellFormed_inOrder (fun _ hsegment => List.mem_singleton.mp hsegment ▸ h) _

theorem isWellFormed_of_mem_expand {exact : Bool} {subterm : String} (h : subterm ≠ "") {p : Pattern}
    (hp : p ∈ expand subterm) : p.IsWellFormed exact := by
  rw [expand, List.mem_cons] at hp
  rcases hp with rfl | hp
  · exact Pattern.isWellFormed_containing h
  · split at hp
    · obtain ⟨kept, hkept, rfl⟩ := List.mem_map.mp hp
      have hsublist := sublist_of_mem_leaveOneOut (List.mem_filter.mp hkept).1
      exact Pattern.isWellFormed_inOrder (fun _ hf => ne_empty_of_mem_fragments (hsublist.mem hf)) false
    · cases hp

theorem isWellFormed_of_mem_subtermPatterns {exact : Bool} {subterm : String} (h : subterm ≠ "") {p : Pattern}
    (hp : p ∈ subtermPatterns exact subterm) : p.IsWellFormed exact := by
  rw [subtermPatterns] at hp
  split at hp
  · rename_i hwhole
    rw [List.mem_singleton.mp hp]
    exact Pattern.isWellFormed_whole h (Bool.and_eq_true_iff.mp hwhole).1
  · exact isWellFormed_of_mem_expand h hp

/-- A leaf with a pattern that passes the checks, and that does not stand for a whole text under a negation. -/
structure Leaf.IsWellFormed (exact : Bool) (l : Leaf) : Prop where
  pattern : l.test.pattern.IsWellFormed exact
  notWhole : l.negated = true → l.test.pattern.form ≠ .on

/-- The leaves of a predicate can be listed, and all of them are well formed. -/
def Predicate.IsWellFormed (exact : Bool) (p : Predicate) : Prop :=
  ∃ ls, p.leaves = .ok ls ∧ ∀ l ∈ ls, l.IsWellFormed exact

section Groups

variable {fields : FieldSet} {exact : Bool}

theorem isWellFormed_anyField {patterns : List Pattern} (h : ∀ p ∈ patterns, p.IsWellFormed exact) :
    (anyField fields patterns).IsWellFormed exact := by
  refine Predicate.leavesOfAll_isOk fun c hc => ?_
  obtain ⟨p, hp, hc⟩ := List.mem_flatMap.mp hc
  obtain ⟨f, -, rfl⟩ := List.mem_map.mp hc
  refine ⟨_, rfl, fun l hl => ?_⟩
  rw [List.mem_singleton.mp hl]
  exact ⟨h p hp, fun hnegated => nomatch hnegated⟩

theorem isWellFormed_noField {text : String} (h : text ≠ "") :
    (noField fields (.containing text)).IsWellFormed exact := by
  refine Predicate.leavesOfAll_isOk fun c hc => ?_
  obtain ⟨f, -, rfl⟩ := List.mem_map.mp hc
  refine ⟨_, rfl, fun l hl => ?_⟩
  rw [List.mem_singleton.mp hl]
  exact ⟨Pattern.isWellFormed_containing h, fun _ hform => nomatch hform⟩

theorem isWellFormed_of_mem_group? {options : Options} {term : Term} (h : term.text ≠ "") {g : Predicate}
    (hg : g ∈ group? fields options term) : g.IsWellFormed options.exact.isOn := by
  refine group?_cases (isWellFormed_noField h) ?_ ?_ (fun _ => Predicate.leavesOfAll_isOk) hg
  · refine isWellFormed_anyField fun p hp => ?_
    rw [List.mem_singleton.mp hp]
    exact isWellFormed_literalPattern h
  · intro s hs
    exact isWellFormed_anyField fun p hp =>
      isWellFormed_of_mem_subtermPatterns (Text.ne_empty_of_mem_subterms hs) hp

/-- Whether a term has a group: with expansion a term that is not excluded needs a sub-term. -/
def Term.isUsable (options : Options) (t : Term) : Bool :=
  t.excluded || !options.expand.isOn || !(Text.subterms t.text).isEmpty

theorem isSome_group? (options : Options) (t : Term) : (group? fields options t).isSome = t.isUsable options := by
  rw [group?, expandedGroup?, Term.isUsable]
  cases options.expand.isOn with
  | false => simp
  | true =>
    cases t.excluded with
    | true => rfl
    | false =>
      cases Text.subterms t.text with
      | nil => rfl
      | cons first rest => cases rest <;> rfl

end Groups

/-- The shape of the plan of a query with some terms. -/
structure Plan.IsWellFormed (fields : FieldSet) (options : Options) (terms : List Term) (plan : Plan) : Prop where
  predicate : plan.predicate.IsWellFormed options.exact.isOn
  ranking : ∀ tests, plan.ranking = some tests → ∀ t ∈ tests, t.pattern.IsWellFormed options.exact.isOn
  titlePatterns : ∀ p ∈ plan.titlePatterns, p.IsWellFormed options.exact.isOn
  groups : ∃ groups, plan.predicate = .all groups ∧
    List.Forall₂ (fun t g => group? fields options t = some g) (terms.filter fun t => t.isUsable options) groups

/-- The tests that are counted are among the leaves. -/
theorem Predicate.IsWellFormed.rankingTests {exact : Bool} {p : Predicate} (h : p.IsWellFormed exact)
    {tests : List Test} (htests : p.rankingTests = .ok tests) : ∀ t ∈ tests, t.pattern.IsWellFormed exact := by
  obtain ⟨ls, hls, hleaves⟩ := h
  rw [Predicate.rankingTests, hls] at htests
  obtain rfl := Except.ok.inj htests
  intro t ht
  obtain ⟨l, hl, rfl⟩ := List.mem_map.mp ht
  exact (hleaves l (List.mem_filter.mp hl).1).pattern

theorem exists_compile_isWellFormed (fields : FieldSet) (options : Options) (tokens : List String) :
    ∃ plan, compile fields options tokens = .ok plan ∧
      plan.IsWellFormed fields options (termsOf options.marker tokens) := by
  obtain ⟨tests, htests, hcompile⟩ := exists_compile_eq fields options tokens
  have htexts : ∀ t ∈ termsOf options.marker tokens, t.text ≠ "" := by
    intro t ht
    obtain ⟨token, -, htoken⟩ := List.mem_filterMap.mp ht
    exact Term.text_ne_empty htoken
  have hpredicate : (Predicate.all ((termsOf options.marker tokens).filterMap
      (group? fields options))).IsWellFormed options.exact.isOn := by
    refine Predicate.leavesOfAll_isOk fun g hg => ?_
    obtain ⟨t, ht, hg⟩ := List.mem_filterMap.mp hg
    exact isWellFormed_of_mem_group? (htexts t ht) hg
  refine ⟨_, hcompile, hpredicate, ?_, ?_, _, rfl, ?_⟩
  · intro ranking hranking
    obtain ⟨-, heq⟩ := Option.ite_none_right_eq_some.mp hranking
    exact Option.some.inj heq ▸ hpredicate.rankingTests htests
  · intro p hp
    obtain ⟨t, ht, hp⟩ := List.mem_filterMap.mp hp
    rw [titlePattern?] at hp
    split at hp
    · cases hp
    · rw [← Option.some.inj hp]
      exact Pattern.isWellFormed_containing (htexts t ht)
  · have hgroups := forall₂_filterMap (group? fields options) (termsOf options.marker tokens)
    simpa only [isSome_group?] using hgroups

/-- Whatever the tokens of a query are, it has a plan of the right shape. The plan has a statement for every scope and
window, and a search with it in any records succeeds. -/
theorem compile_isSafe (fields : FieldSet) (options : Options) (tokens : List String) :
    ∃ plan, compile fields options tokens = .ok plan ∧
      plan.IsWellFormed fields options (termsOf options.marker tokens) ∧
      (∀ scope window, ∃ q, Sql.ofPlan plan fields.metaKeys scope window = .ok q) ∧
      ∀ (scope : Scope) (records : List Record), ∃ hits,
        plan.search fields.metaKeys scope (records.map Record.toDraft) = .ok hits := by
  obtain ⟨plan, hplan, hshape⟩ := exists_compile_isWellFormed fields options tokens
  obtain ⟨same, hsame, hproper, -⟩ := exists_compile fields options tokens
  obtain rfl := Except.ok.inj (hsame.symm.trans hplan)
  refine ⟨same, hplan, hshape, fun scope window => Sql.exists_ofPlan hproper fields.metaKeys scope window, ?_⟩
  intro scope records
  obtain ⟨hits, hhits, -⟩ := hproper.exists_search fields.metaKeys scope records
  exact ⟨hits, hhits⟩

end TermSearch.Query

import TermSearch.Proofs.QueryMeaning

/-! How the ways of matching nest. A text that equals a term contains it, and a text that contains a term contains
each sub-term of it, for a sub-term is a stretch of its term. So a record that the exact literal plan finds is found
by the plain literal plan, and one that either the plain literal or the exact expanded plan finds is found by the
expanded plan. -/
namespace TermSearch.Text

/-- Cutting a text leaves a stretch at its front, and stretches from within it. -/
theorem splitWhen_pieces (p : Char → Bool) (s : List Char) : ∃ first others, splitWhen p s = first :: others ∧
    first <+: s ∧ ∀ piece ∈ others, piece <:+: s := by
  induction s with
  | nil => exact ⟨[], [], rfl, List.prefix_refl _, by simp⟩
  | cons c rest ih =>
    obtain ⟨first, others, hsplit, hfirst, hothers⟩ := ih
    have hinner : ∀ piece ∈ others, piece <:+: c :: rest := fun piece hpiece => List.infix_cons (hothers piece hpiece)
    rw [splitWhen, hsplit]
    split
    · refine ⟨[], first :: others, rfl, List.nil_prefix, ?_⟩
      exact List.forall_mem_cons.mpr ⟨List.infix_cons hfirst.isInfix, hinner⟩
    · exact ⟨c :: first, others, rfl, List.cons_prefix_cons.mpr ⟨rfl, hfirst⟩, hinner⟩

theorem infix_of_mem_splitWhen {p : Char → Bool} {s piece : List Char} (h : piece ∈ splitWhen p s) :
    piece <:+: s := by
  obtain ⟨first, others, hsplit, hfirst, hothers⟩ := splitWhen_pieces p s
  rw [hsplit] at h
  rcases List.mem_cons.mp h with rfl | h
  · exact hfirst.isInfix
  · exact hothers piece h

theorem infix_trimChars (s : List Char) : trimChars s <:+: s := by
  have hfront : s.dropWhile isBlank <:+: s := (List.dropWhile_suffix _).isInfix
  have hback : (s.dropWhile isBlank).reverse.dropWhile isBlank <:+: (s.dropWhile isBlank).reverse :=
    (List.dropWhile_suffix _).isInfix
  rw [← List.reverse_infix, List.reverse_reverse] at hback
  exact hback.trans hfront

/-- A sub-term is a stretch of its term. -/
theorem infix_of_mem_subterms {term subterm : String} (h : subterm ∈ subterms term) :
    subterm.toList <:+: term.toList := by
  obtain ⟨piece, hpiece, rfl⟩ := List.mem_map.mp h
  obtain ⟨cut, hcut, rfl⟩ := List.mem_map.mp (List.mem_filter.mp hpiece).1
  rw [String.toList_ofList]
  exact (infix_trimChars cut).trans (infix_of_mem_splitWhen hcut)

end TermSearch.Text

namespace TermSearch.Query

variable {fields : FieldSet} {record : Record} {strict loose : Options}

theorem SameText.contained {term s : String} (h : SameText term s) : Contained term s := by
  rw [Contained, ← h]

theorem Contained.of_infix {part term s : String} (h : Contained term s) (hpart : part.toList <:+: term.toList) :
    Contained part s := (hpart.map Text.foldChar).trans h

/-- A sub-term that some searched text contains is met, with or without a forgiving pattern. -/
theorem subtermMet_of_contained {subterm s : String} (hs : Searched fields record s) (h : Contained subterm s) :
    SubtermMet fields false record subterm := by
  rw [SubtermMet, if_neg (by simp)]
  exact ⟨.containing subterm, List.mem_cons_self, s, hs, occurInOrder_singleton.mpr h⟩

/-- A sub-term that is met exactly is met. -/
theorem SubtermMet.of_exact {exact : Bool} {subterm : String} (h : SubtermMet fields exact record subterm) :
    SubtermMet fields false record subterm := by
  rw [SubtermMet] at h
  split at h
  · obtain ⟨s, hs, hsame⟩ := h
    exact subtermMet_of_contained hs hsame.contained
  · rw [SubtermMet, if_neg (by simp)]
    exact h

theorem TermMet.of_exact_literal {term : String} (hstrict : strict.expand.isOn = false)
    (hloose : loose.expand.isOn = false) (hexact : loose.exact.isOn = false)
    (h : TermMet fields strict record term) : TermMet fields loose record term := by
  simp only [TermMet, hstrict, hloose, hexact, Bool.false_eq_true, if_false] at h ⊢
  obtain ⟨s, hs, hterm⟩ := h
  refine ⟨s, hs, ?_⟩
  split at hterm
  · exact hterm.contained
  · exact hterm

/-- A term that a text contains is met with expansion by its first sub-term, if it has one. -/
theorem TermMet.of_literal {term : String} (hexpand : strict.expand.isOn = false)
    (hloose : loose.expand.isOn = true) (hexact : loose.exact.isOn = false)
    (h : TermMet fields strict record term) : TermMet fields loose record term := by
  have hplain : TermMet fields {} record term := h.of_exact_literal hexpand rfl rfl
  obtain ⟨s, hs, hterm⟩ : ∃ s, Searched fields record s ∧ Contained term s := hplain
  simp only [TermMet, hloose, hexact, if_true]
  cases hsub : Text.subterms term with
  | nil => exact Or.inl rfl
  | cons first rest =>
    have hfirst : first ∈ Text.subterms term := hsub ▸ List.mem_cons_self
    have hpart := hterm.of_infix (Text.infix_of_mem_subterms hfirst)
    exact Or.inr ⟨first, List.mem_cons_self, subtermMet_of_contained hs hpart⟩

theorem TermMet.of_exact_expanded {term : String} (hstrict : strict.expand.isOn = true)
    (hloose : loose.expand.isOn = true) (hexact : loose.exact.isOn = false)
    (h : TermMet fields strict record term) : TermMet fields loose record term := by
  simp only [TermMet, hstrict, hloose, hexact, if_true] at h ⊢
  refine h.imp id ?_
  rintro ⟨subterm, hsub, hmet⟩
  exact ⟨subterm, hsub, hmet.of_exact⟩

/-- A record that does what a query asks does what another one asks, where the other one asks less of every term,
among other fields or in another way of matching. -/
theorem holds_groups_mono {others : FieldSet} {other : Record} {terms : List Term}
    (hmet : ∀ t ∈ terms, t.excluded = false → TermMet fields strict record t.text → TermMet others loose other t.text)
    (hfree : ∀ t ∈ terms, t.excluded = true → (∀ s, Searched fields record s → ¬ Contained t.text s) →
      ∀ s, Searched others other s → ¬ Contained t.text s)
    (h : (Predicate.all (terms.filterMap (group? fields strict))).Holds fields.metaKeys record) :
    (Predicate.all (terms.filterMap (group? others loose))).Holds others.metaKeys other := by
  rw [Predicate.holds_all_iff] at h ⊢
  intro g hg
  obtain ⟨t, ht, hg⟩ := List.mem_filterMap.mp hg
  have hstrict : ∀ g ∈ group? fields strict t, g.Holds fields.metaKeys record :=
    fun g hg => h g (List.mem_filterMap.mpr ⟨t, ht, hg⟩)
  cases hex : t.excluded with
  | false => exact (holds_group?_iff hex).mpr (hmet t ht hex ((holds_group?_iff hex).mp hstrict)) g hg
  | true =>
    exact (holds_group?_excluded_iff hex).mpr (hfree t ht hex ((holds_group?_excluded_iff hex).mp hstrict)) g hg

/-- Two plans answer on every record, and one that the first accepts the second accepts too. -/
def Plan.Implies (strict loose : Plan) (metaKeys : List String) : Prop :=
  ∀ record : Record, ∃ a b, strict.predicate.eval metaKeys record.toDraft = .ok a ∧
    loose.predicate.eval metaKeys record.toDraft = .ok b ∧ (a = true → b = true)

theorem Plan.Implies.of_holds {p q : Plan} {metaKeys : List String} (hp : p.predicate.IsProper)
    (hq : q.predicate.IsProper)
    (h : ∀ record, p.predicate.Holds metaKeys record → q.predicate.Holds metaKeys record) : p.Implies q metaKeys := by
  intro record
  obtain ⟨a, ha⟩ := hp.eval_isOk metaKeys record
  obtain ⟨b, hb⟩ := hq.eval_isOk metaKeys record
  refine ⟨a, b, ha, hb, ?_⟩
  rw [hp.eval_eq_ok_iff] at ha
  rw [hq.eval_eq_ok_iff] at hb
  rw [ha, hb]
  exact h record

/-- Plans that imply each other give the same answers. -/
theorem Plan.Implies.antisymm {p q : Plan} {metaKeys : List String} (h : p.Implies q metaKeys)
    (hback : q.Implies p metaKeys) (record : Record) : ∃ b,
      p.predicate.eval metaKeys record.toDraft = .ok b ∧ q.predicate.eval metaKeys record.toDraft = .ok b := by
  obtain ⟨a, b, ha, hb, hab⟩ := h record
  obtain ⟨b', a', hb', ha', hba⟩ := hback record
  obtain rfl := Except.ok.inj (ha.symm.trans ha')
  obtain rfl := Except.ok.inj (hb.symm.trans hb')
  have hsame : a = b := Bool.eq_iff_iff.mpr ⟨hab, hba⟩
  exact ⟨b, hsame ▸ ha, hb⟩

theorem implies_of_termMet {tokens : List String} {p q : Plan} (hstrict : compile fields strict tokens = .ok p)
    (hloose : compile fields loose tokens = .ok q) (hmarker : strict.marker = loose.marker)
    (hmet : ∀ record term, TermMet fields strict record term → TermMet fields loose record term) :
    p.Implies q fields.metaKeys := by
  obtain ⟨plan, hplan, hproper, hpredicate⟩ := exists_compile fields strict tokens
  obtain rfl := Except.ok.inj (hplan.symm.trans hstrict)
  obtain ⟨plan', hplan', hproper', hpredicate'⟩ := exists_compile fields loose tokens
  obtain rfl := Except.ok.inj (hplan'.symm.trans hloose)
  apply Plan.Implies.of_holds hproper.predicate hproper'.predicate
  intro record h
  rw [hpredicate] at h
  rw [hpredicate', ← hmarker]
  -- what excluded terms forbid does not depend on the way of matching
  exact holds_groups_mono (fun t _ _ => hmet record t.text) (fun _ _ _ hfree => hfree) h

/-- What a plan finds in a list of records, a looser one finds there too. -/
theorem Plan.Implies.search {p q : Plan} {metaKeys : List String} (h : p.Implies q metaKeys) (hp : p.IsProper)
    (hq : q.IsProper) (scope : Scope) (records : List Record) : ∃ few many,
      p.search metaKeys scope (records.map Record.toDraft) = .ok few ∧
      q.search metaKeys scope (records.map Record.toDraft) = .ok many ∧
      ∀ hit ∈ few, ∃ other ∈ many, other.record = hit.record := by
  obtain ⟨few, hfew, hfound⟩ := hp.exists_search metaKeys scope records
  obtain ⟨many, hmany, hfound'⟩ := hq.exists_search metaKeys scope records
  refine ⟨few, many, hfew, hmany, fun hit hhit => (hfound' hit.record).mpr ?_⟩
  obtain ⟨record, hrecord, hdraft, hadmits, hholds⟩ := (hfound hit.record).mp ⟨hit, hhit, rfl⟩
  obtain ⟨a, b, ha, hb, himp⟩ := h record
  rw [Predicate.Holds, ha, Except.ok.injEq] at hholds
  exact ⟨record, hrecord, hdraft, hadmits, by rw [Predicate.Holds, hb, himp hholds]⟩

/-- The ways of matching nest. Turning expansion on loses no record that the plain literal search finds. -/
theorem implies_of_modes (fields : FieldSet) (marker : String) (tokens : List String) :
    ∃ exact plain exactExpanded expanded, compile fields ⟨.on, .off, marker⟩ tokens = .ok exact ∧
      compile fields ⟨.off, .off, marker⟩ tokens = .ok plain ∧
      compile fields ⟨.on, .on, marker⟩ tokens = .ok exactExpanded ∧
      compile fields ⟨.off, .on, marker⟩ tokens = .ok expanded ∧
      exact.Implies plain fields.metaKeys ∧ plain.Implies expanded fields.metaKeys ∧
      exactExpanded.Implies expanded fields.metaKeys ∧
      ∀ (scope : Scope) (records : List Record), ∃ few many,
        plain.search fields.metaKeys scope (records.map Record.toDraft) = .ok few ∧
        expanded.search fields.metaKeys scope (records.map Record.toDraft) = .ok many ∧
        ∀ hit ∈ few, ∃ other ∈ many, other.record = hit.record := by
  obtain ⟨exact, hexact, -⟩ := exists_compile fields ⟨.on, .off, marker⟩ tokens
  obtain ⟨plain, hplain, hplainProper, -⟩ := exists_compile fields ⟨.off, .off, marker⟩ tokens
  obtain ⟨exactExpanded, hexactExpanded, -⟩ := exists_compile fields ⟨.on, .on, marker⟩ tokens
  obtain ⟨expanded, hexpanded, hexpandedProper, -⟩ := exists_compile fields ⟨.off, .on, marker⟩ tokens
  have hliteral : plain.Implies expanded fields.metaKeys :=
    implies_of_termMet hplain hexpanded rfl fun _ _ h => h.of_literal rfl rfl rfl
  refine ⟨exact, plain, exactExpanded, expanded, hexact, hplain, hexactExpanded, hexpanded, ?_, hliteral, ?_, ?_⟩
  · exact implies_of_termMet hexact hplain rfl fun _ _ h => h.of_exact_literal rfl rfl rfl
  · exact implies_of_termMet hexactExpanded hexpanded rfl fun _ _ h => h.of_exact_expanded rfl rfl rfl
  · exact hliteral.search hplainProper hexpandedProper

end TermSearch.Query

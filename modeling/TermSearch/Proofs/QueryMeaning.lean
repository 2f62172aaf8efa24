import TermSearch.Proofs.CompiledPlan

/-! What a query asks of a record, said without its plan. Every term that is not excluded has to be met by one
of the searched texts, and no searched text may contain an excluded term. Main statement: a record satisfies
the compiled predicate exactly when it does what the query asks. -/
namespace TermSearch.Query

open Text (foldChars)

/-- A text of a record at which a query with some fields looks. -/
def Searched (fields : FieldSet) (record : Record) (s : String) : Prop :=
  (Field.title ∈ fields.fields ∧ s = record.title) ∨
  (Field.excerpt ∈ fields.fields ∧ s = record.excerpt) ∨
  (Field.body ∈ fields.fields ∧ s = record.body) ∨
  (Field.metadata ∈ fields.fields ∧ ∃ key values, Assoc.find? key record.metadata = some values ∧
    (fields.metaKeys = [] ∨ key ∈ fields.metaKeys) ∧ s ∈ values)

/-- A text contains a term, up to the case of the letters A to Z. -/
def Contained (term s : String) : Prop := foldChars term.toList <:+: foldChars s.toList

/-- A text equals a term, up to the case of the letters A to Z. -/
def SameText (term s : String) : Prop := foldChars s.toList = foldChars term.toList

/-- Some searched text fits a sub-term: it equals the sub-term where an exact query does not expand it, and
else the segments of one of its patterns occur in it. -/
def SubtermMet (fields : FieldSet) (exact : Bool) (record : Record) (subterm : String) : Prop :=
  if exact = true ∧ (subterm.length < 4 ∨ 10 < subterm.length) then
    ∃ s, Searched fields record s ∧ SameText subterm s
  else
    ∃ p ∈ expand subterm, ∃ s, Searched fields record s ∧
      OccurInOrder (p.segments.map fun segment => foldChars segment.toList) (foldChars s.toList)

/-- A record has what a term asks for. A term that is cut into nothing asks for nothing. -/
def TermMet (fields : FieldSet) (options : Options) (record : Record) (term : String) : Prop :=
  if options.expand.isOn then
    Text.subterms term = [] ∨
      ∃ subterm ∈ Text.subterms term, SubtermMet fields options.exact.isOn record subterm
  else
    ∃ s, Searched fields record s ∧ if options.exact.isOn then SameText term s else Contained term s

/-- A record does what the terms of a query ask. -/
def Meets (fields : FieldSet) (options : Options) (record : Record) (terms : List Term) : Prop :=
  (∀ t ∈ terms, t.excluded = false → TermMet fields options record t.text) ∧
  (∀ t ∈ terms, t.excluded = true → ∀ s, Searched fields record s → ¬ Contained t.text s)

theorem mem_metadataTexts {metaKeys : List String} {metadata : Metadata} {s : String} :
    s ∈ metadataTexts metaKeys metadata ↔ ∃ key values, Assoc.find? key metadata = some values ∧
      (metaKeys = [] ∨ key ∈ metaKeys) ∧ s ∈ values := by
  have hvalues (key : String) : s ∈ (Assoc.find? key metadata).getD [] ↔
      ∃ values, Assoc.find? key metadata = some values ∧ s ∈ values := by
    cases Assoc.find? key metadata <;> simp
  unfold metadataTexts
  rw [List.mem_flatMap]
  constructor
  · rintro ⟨key, hkey, hs⟩
    obtain ⟨values, hfind, hs⟩ := (hvalues key).mp hs
    refine ⟨key, values, hfind, ?_, hs⟩
    cases metaKeys with
    | nil => exact Or.inl rfl
    | cons k ks => exact Or.inr hkey
  · rintro ⟨key, values, hfind, hkey, hs⟩
    refine ⟨key, ?_, (hvalues key).mpr ⟨values, hfind, hs⟩⟩
    cases metaKeys with
    | nil => exact Assoc.mem_keys_iff.mpr ⟨values, hfind⟩
    | cons k ks => exact hkey.resolve_left (by simp)

/-- The searched texts are those of the fields of the query. -/
theorem searched_iff {fields : FieldSet} {record : Record} {s : String} :
    Searched fields record s ↔ ∃ f ∈ fields.fields, s ∈ f.textsOf fields.metaKeys record := by
  constructor
  · rintro (⟨hf, rfl⟩ | ⟨hf, rfl⟩ | ⟨hf, rfl⟩ | ⟨hf, hs⟩)
    · exact ⟨_, hf, List.mem_singleton_self _⟩
    · exact ⟨_, hf, List.mem_singleton_self _⟩
    · exact ⟨_, hf, List.mem_singleton_self _⟩
    · exact ⟨_, hf, mem_metadataTexts.mpr hs⟩
  · rintro ⟨f, hf, hs⟩
    cases f with
    | title => exact Or.inl ⟨hf, List.mem_singleton.mp hs⟩
    | excerpt => exact Or.inr (Or.inl ⟨hf, List.mem_singleton.mp hs⟩)
    | body => exact Or.inr (Or.inr (Or.inl ⟨hf, List.mem_singleton.mp hs⟩))
    | metadata => exact Or.inr (Or.inr (Or.inr ⟨hf, mem_metadataTexts.mp hs⟩))

section Groups

variable {fields : FieldSet} {record : Record}

theorem holds_anyField_iff {patterns : List Pattern} :
    (anyField fields patterns).Holds fields.metaKeys record ↔
      ∃ p ∈ patterns, ∃ s, Searched fields record s ∧ p.accepts s = true := by
  have hproper := isProper_anyField fields patterns
  rw [anyField] at hproper ⊢
  cases hproper with
  | any h =>
    rw [Predicate.holds_any_iff h]
    constructor
    · rintro ⟨c, hc, hholds⟩
      obtain ⟨p, hp, hc⟩ := List.mem_flatMap.mp hc
      obtain ⟨f, hf, rfl⟩ := List.mem_map.mp hc
      obtain ⟨s, hs, haccepts⟩ := Predicate.holds_test_iff.mp hholds
      exact ⟨p, hp, s, searched_iff.mpr ⟨f, hf, hs⟩, haccepts⟩
    · rintro ⟨p, hp, s, hs, haccepts⟩
      obtain ⟨f, hf, hs⟩ := searched_iff.mp hs
      exact ⟨_, List.mem_flatMap.mpr ⟨p, hp, List.mem_map.mpr ⟨f, hf, rfl⟩⟩,
        Predicate.holds_test_iff.mpr ⟨s, hs, haccepts⟩⟩

theorem holds_noField_iff {p : Pattern} :
    (noField fields p).Holds fields.metaKeys record ↔
      ∀ s, Searched fields record s → ¬ p.accepts s = true := by
  rw [noField, Predicate.holds_all_iff, List.forall_mem_map]
  constructor
  · intro h s hs haccepts
    obtain ⟨f, hf, hs⟩ := searched_iff.mp hs
    exact (Predicate.holds_not_iff (.test f p)).mp (h f hf) (Predicate.holds_test_iff.mpr ⟨s, hs, haccepts⟩)
  · intro h f hf
    refine (Predicate.holds_not_iff (.test f p)).mpr fun hholds => ?_
    obtain ⟨s, hs, haccepts⟩ := Predicate.holds_test_iff.mp hholds
    exact h s (searched_iff.mpr ⟨f, hf, hs⟩) haccepts

theorem accepts_containing_iff {term s : String} :
    (Pattern.containing term).accepts s = true ↔ Contained term s := by
  rw [Pattern.containing, Pattern.accepts_inOrder_iff]
  exact occurInOrder_singleton

theorem accepts_literalPattern_iff {exact : Switch} {term s : String} :
    (literalPattern exact term).accepts s = true ↔
      if exact.isOn then SameText term s else Contained term s := by
  unfold literalPattern
  split
  · exact Pattern.accepts_whole_iff
  · rw [Pattern.accepts_inOrder_iff]
    exact occurInOrder_singleton

/-- Every pattern of an expansion is a list of segments. -/
theorem eq_inOrder_of_mem_expand {subterm : String} {p : Pattern} (h : p ∈ expand subterm) :
    p = .inOrder p.segments := by
  rw [expand, List.mem_cons] at h
  rcases h with rfl | h
  · rfl
  · split at h
    · obtain ⟨kept, -, rfl⟩ := List.mem_map.mp h
      rfl
    · cases h

theorem accepts_iff_of_mem_expand {subterm s : String} {p : Pattern} (h : p ∈ expand subterm) :
    p.accepts s = true ↔
      OccurInOrder (p.segments.map fun segment => foldChars segment.toList) (foldChars s.toList) := by
  rw [eq_inOrder_of_mem_expand h]
  exact Pattern.accepts_inOrder_iff

theorem not_isExpandable_iff {subterm : String} :
    (!isExpandable subterm) = true ↔ subterm.length < 4 ∨ 10 < subterm.length := by
  rw [isExpandable, leastExpanded, greatestExpanded, Bool.not_eq_true', Bool.and_eq_false_iff,
    decide_eq_false_iff_not, decide_eq_false_iff_not]
  omega

theorem holds_subterm_iff {exact : Bool} {subterm : String} :
    (anyField fields (subtermPatterns exact subterm)).Holds fields.metaKeys record ↔
      SubtermMet fields exact record subterm := by
  rw [holds_anyField_iff, subtermPatterns, SubtermMet]
  by_cases h : exact = true ∧ (subterm.length < 4 ∨ 10 < subterm.length)
  · rw [if_pos h, if_pos (by rwa [Bool.and_eq_true, not_isExpandable_iff])]
    simp only [List.mem_singleton, exists_eq_left, Pattern.accepts_whole_iff, SameText]
  · rw [if_neg h, if_neg (by rwa [Bool.and_eq_true, not_isExpandable_iff])]
    constructor
    · rintro ⟨p, hp, s, hs, haccepts⟩
      exact ⟨p, hp, s, hs, (accepts_iff_of_mem_expand hp).mp haccepts⟩
    · rintro ⟨p, hp, s, hs, hoccur⟩
      exact ⟨p, hp, s, hs, (accepts_iff_of_mem_expand hp).mpr hoccur⟩

/-- The group of a term holds exactly when the record has what the term asks for, and a term without a group
asks for nothing. -/
theorem holds_expandedGroup?_iff {exact : Bool} {term : Term} (h : term.excluded = false) :
    (∀ g ∈ expandedGroup? fields exact term, g.Holds fields.metaKeys record) ↔
      Text.subterms term.text = [] ∨
        ∃ subterm ∈ Text.subterms term.text, SubtermMet fields exact record subterm := by
  rw [expandedGroup?, h]
  cases hsub : Text.subterms term.text with
  | nil => simp
  | cons first others =>
    cases others with
    | nil => simp [holds_subterm_iff]
    | cons second others =>
      have hproper : ∀ c ∈ (first :: second :: others).map fun s => anyField fields (subtermPatterns exact s),
          c.IsProper := by
        intro c hc
        obtain ⟨s, -, rfl⟩ := List.mem_map.mp hc
        exact isProper_anyField fields _
      have hany : (Predicate.any _).Holds fields.metaKeys record ↔ _ := Predicate.holds_any_iff hproper
      simp only [List.map_cons] at hany ⊢
      simp only [Bool.false_eq_true, if_false, Option.mem_def, Option.some.injEq, forall_eq', hany]
      simp [holds_subterm_iff]

theorem holds_group?_iff {options : Options} {term : Term} (h : term.excluded = false) :
    (∀ g ∈ group? fields options term, g.Holds fields.metaKeys record) ↔
      TermMet fields options record term.text := by
  rw [group?, TermMet]
  split
  · exact holds_expandedGroup?_iff h
  · rw [literalGroup, h]
    simp only [Bool.false_eq_true, if_false, Option.mem_def, Option.some.injEq, forall_eq', holds_anyField_iff,
      List.mem_singleton, exists_eq_left, accepts_literalPattern_iff]

theorem holds_group?_excluded_iff {options : Options} {term : Term} (h : term.excluded = true) :
    (∀ g ∈ group? fields options term, g.Holds fields.metaKeys record) ↔
      ∀ s, Searched fields record s → ¬ Contained term.text s := by
  rw [group?_of_excluded h]
  simp only [Option.mem_def, Option.some.injEq, forall_eq', holds_noField_iff, accepts_containing_iff]

end Groups

/-- A record satisfies the predicate of a query exactly when it does what the terms of the query ask. -/
theorem eval_compile_iff (fields : FieldSet) (options : Options) (tokens : List String) (record : Record) :
    ∃ plan answer, compile fields options tokens = .ok plan ∧
      plan.predicate.eval fields.metaKeys record = .ok answer ∧
      (answer = true ↔ Meets fields options record (termsOf options.marker tokens)) := by
  obtain ⟨plan, hplan, hproper, hpredicate⟩ := exists_compile fields options tokens
  obtain ⟨answer, hanswer⟩ := hproper.predicate.eval_isOk fields.metaKeys record
  refine ⟨plan, answer, hplan, hanswer, ?_⟩
  rw [hproper.predicate.eval_eq_ok_iff] at hanswer
  rw [hanswer, hpredicate, Predicate.holds_all_iff]
  have hgroups : (∀ c ∈ (termsOf options.marker tokens).filterMap (group? fields options),
        c.Holds fields.metaKeys record) ↔
      ∀ t ∈ termsOf options.marker tokens, ∀ g ∈ group? fields options t, g.Holds fields.metaKeys record := by
    simp only [List.mem_filterMap, forall_exists_index, and_imp]
    exact ⟨fun h t ht g hg => h g t ht hg, fun h g t ht hg => h t ht g hg⟩
  rw [hgroups, Meets]
  constructor
  · intro h
    exact ⟨fun t ht hex => (holds_group?_iff hex).mp (h t ht),
      fun t ht hex => (holds_group?_excluded_iff hex).mp (h t ht)⟩
  · rintro ⟨hmet, hfree⟩ t ht
    cases hex : t.excluded with
    | false => exact (holds_group?_iff hex).mpr (hmet t ht hex)
    | true => exact (holds_group?_excluded_iff hex).mpr (hfree t ht hex)

end TermSearch.Query

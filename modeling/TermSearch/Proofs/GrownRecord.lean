import TermSearch.Proofs.TermPatterns

/-! Records to which text is added. A query without exact matching and without excluded terms only looks for texts
within texts, so it finds a record again after text was added anywhere around or within its texts, and the record
passes no fewer of the counted tests. -/
namespace TermSearch

/-- Every text of a record is a stretch of the same text of another record, and every value of its metadata under the
given keys is a stretch of such a value there. -/
structure Record.IsWithin (metaKeys : List String) (record more : Record) : Prop where
  title : record.title.toList <:+: more.title.toList
  excerpt : record.excerpt.toList <:+: more.excerpt.toList
  body : record.body.toList <:+: more.body.toList
  metadata : ∀ s ∈ Query.metadataTexts metaKeys record.metadata,
    ∃ t ∈ Query.metadataTexts metaKeys more.metadata, s.toList <:+: t.toList

namespace Query

variable {metaKeys : List String} {fields : FieldSet} {options : Options} {record more : Record}

theorem exists_mem_textsOf (h : record.IsWithin metaKeys more) (field : Field) {s : String}
    (hs : s ∈ field.textsOf metaKeys record) : ∃ t ∈ field.textsOf metaKeys more, s.toList <:+: t.toList := by
  cases field with
  | title =>
    obtain rfl := List.mem_singleton.mp hs
    exact ⟨more.title, List.mem_singleton_self _, h.title⟩
  | excerpt =>
    obtain rfl := List.mem_singleton.mp hs
    exact ⟨more.excerpt, List.mem_singleton_self _, h.excerpt⟩
  | body =>
    obtain rfl := List.mem_singleton.mp hs
    exact ⟨more.body, List.mem_singleton_self _, h.body⟩
  | metadata => exact h.metadata s hs

theorem exists_searched (h : record.IsWithin fields.metaKeys more) {s : String} (hs : Searched fields record s) :
    ∃ t, Searched fields more t ∧ s.toList <:+: t.toList := by
  obtain ⟨f, hf, hs⟩ := searched_iff.mp hs
  obtain ⟨t, ht, hst⟩ := exists_mem_textsOf h f hs
  exact ⟨t, searched_iff.mpr ⟨f, hf, ht⟩, hst⟩

/-- Where matching is not exact, the patterns of a term are lists of segments. -/
theorem exists_eq_inOrder_of_mem_termPatterns (hexact : options.exact.isOn = false) {term : String} {p : Pattern}
    (hp : p ∈ termPatterns options term) : ∃ segments unset, p = .inOrder segments unset := by
  unfold termPatterns at hp
  split at hp
  · obtain ⟨subterm, -, hp⟩ := List.mem_flatMap.mp hp
    rw [hexact] at hp
    exact ⟨p.segments, false, eq_inOrder_of_mem_expand hp⟩
  · obtain rfl := List.mem_singleton.mp hp
    rw [literalPattern, hexact]
    exact ⟨[term], _, rfl⟩

theorem accepts_of_mem_termPatterns (hexact : options.exact.isOn = false) {term : String} {p : Pattern}
    (hp : p ∈ termPatterns options term) {s t : String} (hst : s.toList <:+: t.toList) (h : p.accepts s = true) :
    p.accepts t = true := by
  obtain ⟨segments, unset, rfl⟩ := exists_eq_inOrder_of_mem_termPatterns hexact hp
  exact Pattern.accepts_inOrder_of_infix hst h

/-- A term that a record meets is met with more text. -/
theorem TermMet.of_isWithin (hexact : options.exact.isOn = false) (hwithin : record.IsWithin fields.metaKeys more)
    {term : String} (h : TermMet fields options record term) : TermMet fields options more term := by
  rw [termMet_iff_termPatterns] at h ⊢
  apply h.imp_right
  rintro ⟨p, hp, s, hs, haccepts⟩
  obtain ⟨t, ht, hst⟩ := exists_searched hwithin hs
  exact ⟨p, hp, t, ht, accepts_of_mem_termPatterns hexact hp hst haccepts⟩

/-- A test for a pattern of a term that a record passes is passed with more text. -/
theorem passes_of_isWithin (hexact : options.exact.isOn = false) (hwithin : record.IsWithin metaKeys more)
    {field : List Field} {term : String} {t : Test} (ht : t ∈ testsFor field (termPatterns options term))
    (h : t.passes metaKeys record = true) : t.passes metaKeys more = true := by
  obtain ⟨p, hp, ht⟩ := List.mem_flatMap.mp ht
  obtain ⟨f, -, rfl⟩ := List.mem_map.mp ht
  rw [Test.passes, List.any_eq_true] at h ⊢
  obtain ⟨s, hs, haccepts⟩ := h
  obtain ⟨t, ht, hst⟩ := exists_mem_textsOf hwithin f hs
  exact ⟨t, ht, accepts_of_mem_termPatterns hexact hp hst haccepts⟩

/-- No record loses a rank by more text, whatever the terms are. -/
theorem rankOver_le_of_isWithin (hexact : options.exact.isOn = false)
    (hwithin : record.IsWithin fields.metaKeys more) (terms : List Term) :
    rankOver fields options terms record ≤ rankOver fields options terms more := by
  unfold rankOver
  split
  · rw [countedTests_groupsOf]
    apply List.countP_mono_left
    intro t ht
    obtain ⟨term, -, ht⟩ := List.mem_flatMap.mp ht
    exact passes_of_isWithin hexact hwithin ht
  · exact Nat.le_refl 0

/-- A query without exact matching and without excluded terms finds a record again after text was added to it, and does
not rank it lower. -/
theorem holds_and_score_le_of_isWithin (fields : FieldSet) (options : Options) (hexact : options.exact.isOn = false)
    (tokens : List String) (hincluded : ∀ t ∈ termsOf options.marker tokens, t.excluded = false) {record more : Record}
    (hwithin : record.IsWithin fields.metaKeys more) : ∃ plan a b m n, compile fields options tokens = .ok plan ∧
      plan.predicate.eval fields.metaKeys record.toDraft = .ok a ∧
      plan.predicate.eval fields.metaKeys more.toDraft = .ok b ∧ (a = true → b = true) ∧
      score fields.metaKeys record.toDraft plan.ranking = .ok m ∧
      score fields.metaKeys more.toDraft plan.ranking = .ok n ∧ m ≤ n := by
  have hproper := (isProper_planOver fields options (termsOf options.marker tokens)).predicate
  obtain ⟨a, ha⟩ := hproper.eval_isOk fields.metaKeys record
  obtain ⟨b, hb⟩ := hproper.eval_isOk fields.metaKeys more
  refine ⟨_, a, b, _, _, compile_eq_planOver fields options tokens, ha, hb, ?_, score_planOver .., score_planOver ..,
    rankOver_le_of_isWithin hexact hwithin _⟩
  rw [hproper.eval_eq_ok_iff] at ha hb
  rw [ha, hb]
  apply holds_groups_mono
  · intro t _ _ hmet
    exact hmet.of_isWithin hexact hwithin
  · intro t ht hexcluded
    rw [hincluded t ht] at hexcluded
    cases hexcluded

/-- A record of a tower, with its place in the metadata. -/
def towerRecord (title place : String) : Record where
  id := some 1
  title := title
  excerpt := ""
  body := ""
  type := "post"
  password := ""
  published := none
  metadata := [("place", [place]), ("colour", ["red"])]

/-- The titles of records and the places in their metadata. -/
def titlesAndPlaces : FieldSet := ⟨[.title, .metadata], ["place"], by decide, by decide⟩

theorem isWithin_towerRecord : (towerRecord "Tower" "Minato").IsWithin ["place"] (towerRecord "The Tower" "Minatoku") where
  title := ⟨"The ".toList, [], by decide +kernel⟩
  excerpt := List.infix_refl _
  body := List.infix_refl _
  metadata := by
    intro s hs
    obtain rfl : s = "Minato" := List.mem_singleton.mp hs
    exact ⟨"Minatoku", List.mem_singleton_self _, [], "ku".toList, by decide +kernel⟩

theorem termsOf_tower : termsOf defaultMarker ["tower"] = [⟨"tower", false⟩] := by decide +kernel

/-- The expanded query for a tower finds the record with the shorter title, and so the other one. -/
theorem holds_and_score_le_of_isWithin_tower : Options.exact { expand := .on } = .off ∧
    (∀ t ∈ termsOf defaultMarker ["tower"], t.excluded = false) ∧
    (towerRecord "Tower" "Minato").IsWithin ["place"] (towerRecord "The Tower" "Minatoku") ∧
    ∃ plan m n, compile titlesAndPlaces { expand := .on } ["tower"] = .ok plan ∧
      plan.predicate.eval ["place"] (towerRecord "Tower" "Minato").toDraft = .ok true ∧
      plan.predicate.eval ["place"] (towerRecord "The Tower" "Minatoku").toDraft = .ok true ∧
      score ["place"] (towerRecord "Tower" "Minato").toDraft plan.ranking = .ok m ∧
      score ["place"] (towerRecord "The Tower" "Minatoku").toDraft plan.ranking = .ok n ∧ m ≤ n := by
  have hincluded : ∀ t ∈ termsOf defaultMarker ["tower"], t.excluded = false := by simp [termsOf_tower]
  obtain ⟨plan, a, b, m, n, hplan, ha, hb, hkeeps, hscores⟩ := holds_and_score_le_of_isWithin titlesAndPlaces
    { expand := .on } rfl ["tower"] hincluded isWithin_towerRecord
  obtain rfl := Except.ok.inj ((compile_eq_planOver ..).symm.trans hplan)
  have hplain : TermMet titlesAndPlaces {} (towerRecord "Tower" "Minato") "tower" :=
    ⟨"Tower", .inl ⟨by decide, rfl⟩, [], [], by decide +kernel⟩
  have hmet : TermMet titlesAndPlaces { expand := .on } (towerRecord "Tower" "Minato") "tower" :=
    hplain.of_literal rfl rfl rfl
  have hfound : (planOver titlesAndPlaces { expand := .on } (termsOf defaultMarker ["tower"])).predicate.Holds
      titlesAndPlaces.metaKeys (towerRecord "Tower" "Minato") := by
    rw [termsOf_tower, planOver, Predicate.holds_all_iff]
    intro g hg
    obtain ⟨t, ht, hgroup⟩ := List.mem_filterMap.mp hg
    obtain rfl := List.mem_singleton.mp ht
    have hincluded : (Term.mk "tower" false).excluded = false := rfl
    exact (holds_group?_iff hincluded).mpr hmet g hgroup
  obtain rfl : a = true := Except.ok.inj (ha.symm.trans hfound)
  rw [hkeeps rfl] at hb
  exact ⟨rfl, hincluded, isWithin_towerRecord, _, m, n, hplan, ha, hb, hscores⟩

end Query

end TermSearch

import TermSearch.Proofs.AcceptedSettings
import TermSearch.Proofs.ModeNesting
import TermSearch.Service.Search

/-! What the configured marker excludes. An accepted marker is a single character that is not white space, but a token
is trimmed of blank characters before the marker is looked for, and some blank characters, such as the zero-width
space, are not white space. Main statement: a marked word is excluded exactly where the marker is not blank; behind a
blank marker no token is ever excluded. -/
namespace TermSearch.Query

open Text (isBlank trim trimChars stripChars)

section Tokens

variable {c : Char} {w token : String}

theorem trimChars_toList (h : trim w = w) : trimChars w.toList = w.toList := by
  rw [← Text.toList_trim, h]

/-- A trimmed text does not start with a blank character. -/
theorem isBlank_of_mem_head?_trimChars {s : List Char} (h : c ∈ (trimChars s).head?) : isBlank c = false :=
  Text.eq_false_of_mem_head?_stripChars (p := isBlank) h

theorem isBlank_of_mem_getLast?_trimChars {s : List Char} (h : c ∈ (trimChars s).getLast?) : isBlank c = false :=
  Text.eq_false_of_mem_getLast?_stripChars (p := isBlank) h

/-- A blank marker never stands in front of a trimmed text. -/
theorem afterMarker?_trimChars (hc : isBlank c = true) (s : List Char) : afterMarker? [c] (trimChars s) = none := by
  have hfirst : ([c] : List Char).isPrefixOf (trimChars s) = false := by
    cases htrim : trimChars s with
    | nil => rfl
    | cons d rest =>
      have hd : isBlank d = false := isBlank_of_mem_head?_trimChars (by rw [htrim]; rfl)
      have hne : c ≠ d := by
        rintro rfl
        rw [hc] at hd
        cases hd
      simp [List.isPrefixOf, hne]
  rw [afterMarker?, hfirst]
  rfl

/-- Where the marker is blank, no token is excluded. -/
theorem Term.ofToken?_of_isBlank (hc : isBlank c = true) (token : String) : ofToken? (String.singleton c) token =
    if (trimChars token.toList).isEmpty then none else some ⟨trim token, false⟩ := by
  rw [ofToken?, String.toList_singleton]
  simp only [afterMarker?_trimChars hc]
  rfl

/-- Trimming keeps a marked word where the marker is not blank. -/
theorem trimChars_cons (hc : isBlank c = false) (hw : w ≠ "") (h : trim w = w) :
    trimChars (c :: w.toList) = c :: w.toList := by
  have hne : w.toList ≠ [] := by simpa using hw
  refine Text.stripChars_eq_self (p := isBlank) ?_ ?_
  · rintro d hd
    obtain rfl := Option.some.inj hd
    exact hc
  · intro d hd
    rw [List.getLast?_cons_of_ne_nil hne, ← trimChars_toList h] at hd
    exact isBlank_of_mem_getLast?_trimChars hd

/-- A marked word stands for the word, excluded exactly where the marker is not blank. -/
theorem Term.ofToken?_marked (c : Char) (hw : w ≠ "") (h : trim w = w) :
    ofToken? (String.singleton c) (String.singleton c ++ w) = some ⟨w, !isBlank c⟩ := by
  have hne : w.toList.isEmpty = false := by simpa using hw
  have hchars : (String.singleton c ++ w).toList = c :: w.toList := by simp
  cases hc : isBlank c with
  | true =>
    have htrim : trimChars (c :: w.toList) = w.toList :=
      (Text.stripChars_cons_of_pos (p := isBlank) hc _).trans (trimChars_toList h)
    rw [ofToken?_of_isBlank hc, hchars, htrim, hne, trim, hchars, htrim, String.ofList_toList]
    rfl
  | false =>
    have hmarker : afterMarker? [c] (c :: w.toList) = some w.toList := by simp [afterMarker?, List.isPrefixOf]
    rw [ofToken?, String.toList_singleton, hchars]
    simp only [trimChars_cons hc hw h, hmarker, trimChars_toList h, hne, String.ofList_toList]
    rfl

end Tokens

/-- A plan refuses every record with a word in a searched text. -/
def Plan.Refuses (plan : Plan) (fields : FieldSet) (word : String) : Prop :=
  ∀ record s, Searched fields record s → Contained word s →
    plan.predicate.eval fields.metaKeys record.toDraft = .ok false

section Plans

variable {fields : FieldSet} {options : Options}

/-- An excluded term makes its plan refuse the records with it. -/
theorem refuses_of_excluded {word : String} {tokens : List String}
    (h : Term.mk word true ∈ termsOf options.marker tokens) :
    ∃ plan, compile fields options tokens = .ok plan ∧ plan.Refuses fields word := by
  obtain ⟨plan, hplan, hproper, hpredicate⟩ := exists_compile fields options tokens
  refine ⟨plan, hplan, fun record s hs hcontained => ?_⟩
  rw [hproper.predicate.eval_eq_ok_iff, hpredicate, Predicate.holds_all_iff]
  simp only [Bool.false_eq_true, false_iff]
  intro hholds
  have hgroup : ∀ g ∈ group? fields options ⟨word, true⟩, g.Holds fields.metaKeys record := fun g hg =>
    hholds g (List.mem_filterMap.mpr ⟨_, h, hg⟩)
  exact (holds_group?_excluded_iff rfl).mp hgroup s hs hcontained

/-- A record with a word as its excerpt, and the first sub-term of the word as its title. -/
def recordWith (word : String) : Record :=
  { (default : Record) with title := (Text.subterms word).headD "", excerpt := word }

/-- The record with a word has what the word asks for, however terms are matched. -/
theorem termMet_recordWith (htitle : Field.title ∈ fields.fields) (hexcerpt : Field.excerpt ∈ fields.fields)
    (word : String) : TermMet fields options (recordWith word) word := by
  have hword : Searched fields (recordWith word) word := Or.inr (Or.inl ⟨hexcerpt, rfl⟩)
  have hsame : ∀ s, SameText s s := fun s => rfl
  unfold TermMet
  split
  · cases hsub : Text.subterms word with
    | nil => exact Or.inl rfl
    | cons first rest =>
      refine Or.inr ⟨first, List.mem_cons_self, ?_⟩
      have hfirst : Searched fields (recordWith word) first :=
        Or.inl ⟨htitle, by rw [recordWith, hsub]; rfl⟩
      unfold SubtermMet
      split
      · exact ⟨first, hfirst, hsame first⟩
      · exact ⟨.containing first, List.mem_cons_self, first, hfirst,
          occurInOrder_singleton.mpr (hsame first).contained⟩
  · refine ⟨word, hword, ?_⟩
    split
    · exact hsame word
    · exact (hsame word).contained

/-- A plan whose only term is not excluded finds a record with the term. -/
theorem not_refuses_of_included {word : String} {tokens : List String} (htitle : Field.title ∈ fields.fields)
    (hexcerpt : Field.excerpt ∈ fields.fields) (h : termsOf options.marker tokens = [⟨word, false⟩]) {plan : Plan}
    (hplan : compile fields options tokens = .ok plan) : ¬ plan.Refuses fields word := by
  intro hrefuses
  obtain ⟨same, hsame, hproper, hpredicate⟩ := exists_compile fields options tokens
  obtain rfl := Except.ok.inj (hsame.symm.trans hplan)
  have hword : Searched fields (recordWith word) word := Or.inr (Or.inl ⟨hexcerpt, rfl⟩)
  have hfalse := hrefuses (recordWith word) word hword (List.infix_refl _)
  have hholds : same.predicate.Holds fields.metaKeys (recordWith word) := by
    rw [hpredicate, h, Predicate.holds_all_iff]
    intro g hg
    obtain ⟨t, ht, hg⟩ := List.mem_filterMap.mp hg
    rw [List.mem_singleton.mp ht] at hg
    have hmet : TermMet fields options (recordWith word) word := termMet_recordWith htitle hexcerpt word
    have hincluded : (Term.mk word false).excluded = false := rfl
    exact (holds_group?_iff hincluded).mpr hmet g hg
  rw [Predicate.Holds, hfalse] at hholds
  cases hholds

end Plans

/-- The standard fields take in the texts of the record itself. -/
theorem FieldSet.mem_standard (targetMetadata : Bool) (metaKeys : List String) {f : Field} (h : f ∈ Field.content) :
    f ∈ (standard targetMetadata metaKeys).fields := by
  unfold standard
  split
  · change f ∈ Field.all
    cases f <;> decide
  · exact h

end TermSearch.Query

namespace TermSearch.Settings

open Document (Value)
open Query (FieldSet Term)
open Text (isBlank trim)

/-- A marker that passes the check is a single character or none. -/
theorem SearchSettings.IsAccepted.exists_singleton {s : SearchSettings} (h : s.IsAccepted) (hmarker : s.marker ≠ "") :
    ∃ c, s.marker = String.singleton c := by
  have hlength : s.marker.toList.length ≤ 1 := h.marker
  have hne : s.marker.toList ≠ [] := by simpa using hmarker
  match hchars : s.marker.toList with
  | [] => exact absurd hchars hne
  | [c] => exact ⟨c, String.toList_inj.mp (by rw [hchars, String.toList_singleton])⟩
  | _ :: _ :: _ => rw [hchars] at hlength; simp at hlength

/-- In an accepted configuration with a marker, a marked word is excluded, and every query with it refuses the records
with the word in a searched text, exactly where the marker is not a blank character. -/
theorem refuses_marked_iff {root : Entries} {settings : AllSettings} (h : ofEntries root = .ok settings)
    (hmarker : settings.search.marker ≠ "") : ∃ c, settings.search.marker = String.singleton c ∧
      ∀ w, w ≠ "" → trim w = w →
        Term.ofToken? settings.search.marker (settings.search.marker ++ w) = some ⟨w, !isBlank c⟩ ∧
        ((∀ tokens, settings.search.marker ++ w ∈ tokens → ∃ plan,
          Service.planOf settings.search tokens = .ok plan ∧ plan.Refuses settings.search.fields w) ↔
            isBlank c = false) := by
  obtain ⟨c, hc⟩ := (search_isAccepted h).exists_singleton hmarker
  refine ⟨c, hc, fun w hw htrim => ?_⟩
  have hterm := Term.ofToken?_marked c hw htrim
  rw [← hc] at hterm
  refine ⟨hterm, fun hrefuses => ?_, fun hblank tokens htoken => ?_⟩
  · by_contra hnot
    have hblank : isBlank c = true := by simpa using hnot
    obtain ⟨plan, hplan, hrefused⟩ := hrefuses [settings.search.marker ++ w] List.mem_cons_self
    refine Query.not_refuses_of_included (FieldSet.mem_standard _ _ (by decide))
      (FieldSet.mem_standard _ _ (by decide)) ?_ hplan hrefused
    change [settings.search.marker ++ w].filterMap (Term.ofToken? settings.search.marker) = _
    rw [List.filterMap_cons_some hterm, hblank]
    rfl
  · refine Query.refuses_of_excluded (List.mem_filterMap.mpr ⟨_, htoken, ?_⟩)
    rw [hblank] at hterm
    exact hterm

/-- The default configuration with another marker. -/
def markedEntries (marker : String) : Entries :=
  merge defaultEntries [(.text "search", mappingOf [("exclusion_prefix", .text marker)])]

/-- The settings of the default configuration with another marker. -/
def markedSettings (marker : String) : AllSettings :=
  { defaultSettings with search := { defaultSettings.search with marker := marker } }

theorem refuses_marked_moon : ofEntries (markedEntries "-") = .ok (markedSettings "-") ∧
    Term.ofToken? "-" "-moon" = some ⟨"moon", true⟩ ∧
    ∀ tokens, "-moon" ∈ tokens → ∃ plan, Service.planOf (markedSettings "-").search tokens = .ok plan ∧
      plan.Refuses (markedSettings "-").search.fields "moon" := by
  have haccepted : ofEntries (markedEntries "-") = .ok (markedSettings "-") := rfl
  obtain ⟨c, hc, hmarked⟩ := refuses_marked_iff haccepted (by decide)
  obtain rfl : c = '-' := by
    have hchars := congrArg String.toList hc
    rw [String.toList_singleton] at hchars
    exact (List.singleton_inj.mp hchars).symm
  have hblank : isBlank '-' = false := by decide +kernel
  have hword : (markedSettings "-").search.marker ++ "moon" = "-moon" := by decide
  obtain ⟨hterm, hrefuses⟩ := hmarked "moon" (by decide) (by decide +kernel)
  rw [hword, hblank] at hterm
  rw [hword] at hrefuses
  exact ⟨haccepted, hterm, hrefuses.mpr hblank⟩

/-- The zero-width space is accepted as a marker, but a word behind it is searched for and not excluded. -/
theorem exists_marker_without_effect :
    ofEntries (markedEntries "\u200b") = .ok (markedSettings "\u200b") ∧ trim "moon" = "moon" ∧
    Term.ofToken? "\u200b" ("\u200b" ++ "moon") = some ⟨"moon", false⟩ ∧
    ((Service.planOf (markedSettings "\u200b").search ["\u200bmoon"]).toOption.bind fun plan =>
      (plan.predicate.eval [] { (default : Record) with title := "moon" }.toDraft).toOption) = some true := by
  refine ⟨rfl, ?_⟩
  decide +kernel

end TermSearch.Settings

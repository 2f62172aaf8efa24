import Mathlib.Data.List.Induction
import TermSearch.Proofs.AcceptedSettings
import TermSearch.Settings.Document

/-! Accepted settings written as a configuration. Reading brings settings into a form of their own: levels in upper
case, formats in lower case, addresses without slashes around them, and names stripped, without blank ones and
repetitions. What has that form is read back as it was written. Main statement: accepted settings have it, so the
configuration that is written for them is accepted with the same settings. -/
namespace TermSearch.Settings

open Document (Value)

section Names

/-- Names that cleaning leaves as they are. -/
structure IsClean (names : List String) : Prop where
  stripped : ∀ name ∈ names, Text.strip name = name
  ne_empty : ∀ name ∈ names, name ≠ ""
  nodup : names.Nodup

theorem isClean_nil : IsClean [] := ⟨nofun, nofun, .nil⟩

theorem isClean_concat_iff {names : List String} {name : String} : IsClean (names ++ [name]) ↔
    IsClean names ∧ Text.strip name = name ∧ name ≠ "" ∧ name ∉ names := by
  constructor
  · rintro ⟨hstripped, hne, hnodup⟩
    obtain ⟨hnames, -, hdisjoint⟩ := List.nodup_append.mp hnodup
    have hlast : name ∈ names ++ [name] := List.mem_append_right _ (List.mem_singleton_self name)
    exact ⟨⟨fun n hn => hstripped n (List.mem_append_left _ hn), fun n hn => hne n (List.mem_append_left _ hn), hnames⟩,
      hstripped name hlast, hne name hlast, fun hn => hdisjoint name hn name (List.mem_singleton_self name) rfl⟩
  · rintro ⟨⟨hstripped, hne, hnodup⟩, hstrip, hempty, hnew⟩
    refine ⟨?_, ?_, List.nodup_append.mpr ⟨hnodup, List.pairwise_singleton _ name, ?_⟩⟩
    · exact fun n hn => (List.mem_append.mp hn).elim (hstripped n) fun h => List.mem_singleton.mp h ▸ hstrip
    · exact fun n hn => (List.mem_append.mp hn).elim (hne n) fun h => List.mem_singleton.mp h ▸ hempty
    · rintro n hn _ h rfl
      exact hnew (List.mem_singleton.mp h ▸ hn)

theorem cleanTexts_concat (texts : List String) (s : String) : cleanTexts (texts ++ [s]) =
    if (Text.strip s).isEmpty || (cleanTexts texts).contains (Text.strip s) then cleanTexts texts
    else cleanTexts texts ++ [Text.strip s] := by
  rw [cleanTexts, cleanTexts, List.foldl_append, List.foldl_cons, List.foldl_nil]

theorem isClean_cleanTexts (texts : List String) : IsClean (cleanTexts texts) := by
  induction texts using List.reverseRecOn with
  | nil => exact isClean_nil
  | append_singleton texts s ih =>
    rw [cleanTexts_concat]
    split
    · exact ih
    · next hkept =>
      rw [Bool.or_eq_true, not_or, String.isEmpty_iff, List.contains_iff_mem] at hkept
      exact isClean_concat_iff.mpr ⟨ih, Text.strip_strip s, hkept⟩

theorem cleanTexts_of_isClean {names : List String} (h : IsClean names) : cleanTexts names = names := by
  induction names using List.reverseRecOn with
  | nil => rfl
  | append_singleton names name ih =>
    obtain ⟨hnames, hstrip, hne, hnew⟩ := isClean_concat_iff.mp h
    rw [cleanTexts_concat, ih hnames, hstrip, if_neg]
    rw [Bool.or_eq_true, not_or, String.isEmpty_iff, List.contains_iff_mem]
    exact ⟨hne, hnew⟩

theorem expectItems_texts (key : String) (index : Nat) (texts : List String) :
    expectItems key index (texts.map .text) = .ok texts := by
  induction texts generalizing index with
  | nil => rfl
  | cons s texts ih =>
    rw [List.map_cons, expectItems, ih]
    rfl

theorem expectTexts_textsDocument (key : String) (texts : List String) :
    expectTexts key (textsDocument texts) = .ok texts :=
  expectItems_texts key 0 texts

theorem expectNames_textsDocument (key : String) {names : List String} (h : IsClean names) :
    expectNames key (textsDocument names) = .ok names := by
  rw [expectNames, expectTexts_textsDocument]
  exact congrArg Except.ok (cleanTexts_of_isClean h)

theorem isClean_of_expectNames {key : String} {v : Value} {names : List String}
    (h : expectNames key v = .ok names) : IsClean names := by
  rw [expectNames] at h
  cases htexts : expectTexts key v with
  | error e => rw [htexts] at h; cases h
  | ok texts =>
    rw [htexts] at h
    exact Except.ok.inj h ▸ isClean_cleanTexts texts

theorem expectTextLists_mappingOf (key : String) (lists : List (String × List String)) :
    expectTextLists key (mappingOf (lists.map fun p => (p.1, textsDocument p.2))) = .ok lists := by
  change expectTextEntries key ((lists.map fun p => (p.1, textsDocument p.2)).map fun p => (.text p.1, p.2)) =
    .ok lists
  induction lists with
  | nil => rfl
  | cons p lists ih =>
    rw [List.map_cons, List.map_cons, expectTextEntries, expectTexts_textsDocument, ih]
    rfl

end Names

/-- Settings in the form into which reading brings them. -/
structure AllSettings.IsNormal (s : AllSettings) : Prop where
  level : Text.upper s.log.level = s.log.level
  metaKeys : IsClean s.search.metaKeys
  types : IsClean s.search.types
  targeted : s.search.metaKeys ≠ [] → s.search.targetMetadata = true
  bounded : s.search.maxResults.isSome
  base : Text.stripSlashes s.pages.base = s.pages.base
  slugs : ∀ p ∈ s.pages.slugs, Text.stripSlashes p.1 = p.1
  nodup : (Assoc.keys s.pages.slugs).Nodup
  formats : ∀ name ∈ s.output.formats, Text.lower (Text.strip name) = name

section Written

variable {s : AllSettings}

theorem readLog_entries (h : s.IsNormal) : readLog s.entries = .ok s.log := by
  have hread : readLog s.entries = .ok { s.log with level := Text.upper s.log.level } := rfl
  rw [hread, h.level]

theorem readSearch_entries (h : s.IsNormal) : readSearch s.entries = .ok s.search := by
  obtain ⟨n, hn⟩ := Option.isSome_iff_exists.mp h.bounded
  have htargeted : (s.search.targetMetadata || !s.search.metaKeys.isEmpty) = s.search.targetMetadata := by
    cases hkeys : s.search.metaKeys with
    | nil => exact Bool.or_false _
    | cons key rest => rw [h.targeted (by rw [hkeys]; exact List.cons_ne_nil _ _)]; rfl
  have hread : readSearch s.entries = (do
      let metaKeys ← expectNames "search.meta_keys" (textsDocument s.search.metaKeys)
      let types ← expectNames "search.target_types" (textsDocument s.search.types)
      let maxResults ← expectInt "search.max_results" ((s.search.maxResults.map Value.int).getD .null)
      return { s.search with
        targetMetadata := s.search.targetMetadata || !metaKeys.isEmpty
        metaKeys := metaKeys
        types := types
        maxResults := some maxResults }) := rfl
  rw [hread, expectNames_textsDocument _ h.metaKeys, expectNames_textsDocument _ h.types, hn]
  change Except.ok ({ s.search with
    targetMetadata := s.search.targetMetadata || !s.search.metaKeys.isEmpty
    maxResults := some n } : SearchSettings) = _
  rw [htargeted, ← hn]

theorem readPages_entries (h : s.IsNormal) : readPages s.entries = .ok s.pages := by
  have hslugs : s.pages.slugs.map (fun p => (Text.stripSlashes p.1, p.2)) = s.pages.slugs := by
    conv_rhs => rw [← List.map_id s.pages.slugs]
    exact List.map_congr_left fun p hp => Prod.ext (h.slugs p hp) rfl
  have hread : readPages s.entries = (expectTextLists "pages.slugs"
      (mappingOf (s.pages.slugs.map fun p => (p.1, textsDocument p.2)))).map fun slugs =>
        { s.pages with
          base := Text.stripSlashes s.pages.base
          slugs := Assoc.ofPairs (slugs.map fun p => (Text.stripSlashes p.1, p.2)) } := rfl
  rw [hread, expectTextLists_mappingOf, Except.map, h.base, hslugs, Assoc.ofPairs_of_nodup h.nodup]

theorem readOutput_entries (h : s.IsNormal) : readOutput s.entries = .ok s.output := by
  have hformats : s.output.formats.map (fun name => Text.lower (Text.strip name)) = s.output.formats :=
    (List.map_congr_left h.formats).trans (List.map_id _)
  have hread : readOutput s.entries = (expectTexts "output.formats" (textsDocument s.output.formats)).map
      fun formats => { s.output with formats := formats.map fun name => Text.lower (Text.strip name) } := rfl
  rw [hread, expectTexts_textsDocument, Except.map, hformats]

theorem readStorage_entries (s : AllSettings) : readStorage s.entries = .ok s.databasePath := rfl

/-- Settings that have the form of settings that were read are read back as they were written. -/
theorem readAll_entries (h : s.IsNormal) : readAll s.entries = .ok s := by
  rw [readAll, readLog_entries h, readSearch_entries h, readPages_entries h, readStorage_entries,
    readOutput_entries h]
  rfl

end Written

section Read

variable {root : Entries} {s : AllSettings}

theorem upper_of_mem_levelNames {level : String} (h : level ∈ levelNames) : Text.upper level = level := by
  have hall : ∀ name ∈ levelNames, Text.upper name = name := by decide +kernel
  exact hall level h

theorem lower_strip_of_mem_knownFormats {format : String} (h : format ∈ knownFormats) :
    Text.lower (Text.strip format) = format := by
  have hall : ∀ name ∈ knownFormats, Text.lower (Text.strip name) = name := by decide +kernel
  exact hall format h

theorem mem_levelNames_of_check {log : LogSettings} (h : log.check = .ok ()) : log.level ∈ levelNames := by
  rw [LogSettings.check, check_then_eq_ok_iff, require_eq_ok_iff] at h
  exact List.contains_iff_mem.mp h.1

theorem mem_knownFormats_of_check {output : OutputSettings} (h : output.check = .ok ()) :
    ∀ name ∈ output.formats, name ∈ knownFormats := by
  rw [OutputSettings.check, check_then_eq_ok_iff, require_eq_ok_iff, require_eq_ok_iff, List.isEmpty_iff,
    List.filter_eq_nil_iff] at h
  intro name hname
  have hknown := h.2 name hname
  rw [Bool.not_eq_true, Bool.not_eq_false', List.contains_iff_mem] at hknown
  exact hknown

/-- What reading makes of the settings of searches. -/
theorem isClean_of_readSearch {search : SearchSettings} (h : readSearch root = .ok search) :
    IsClean search.metaKeys ∧ IsClean search.types ∧
      (search.metaKeys ≠ [] → search.targetMetadata = true) ∧ search.maxResults.isSome := by
  simp only [readSearch, bind_eq_ok_iff] at h
  obtain ⟨_, -, metaKeys, hmeta, _, -, _, -, _, -, _, -, _, -, types, htypes, _, -, _, -, _, -, _, -, hsearch⟩ := h
  obtain rfl := Except.ok.inj hsearch
  refine ⟨isClean_of_expectNames hmeta, isClean_of_expectNames htypes, ?_, rfl⟩
  intro hkeys
  cases metaKeys with
  | nil => exact absurd rfl hkeys
  | cons key rest => exact Bool.or_true _

theorem isNormal_of_ofEntries (h : ofEntries root = .ok s) : s.IsNormal := by
  obtain ⟨hread, hcheck⟩ := ofEntries_eq_ok_iff.mp h
  obtain ⟨hlog, -, hpages, -, houtput, -⟩ := AllSettings.check_eq_ok_iff.mp hcheck
  obtain ⟨hmeta, htypes, htargeted, hbounded⟩ := isClean_of_readSearch (sections_of_readAll hread).2.1
  exact {
    level := upper_of_mem_levelNames (mem_levelNames_of_check hlog)
    metaKeys := hmeta
    types := htypes
    targeted := htargeted
    bounded := hbounded
    base := stripSlashes_of_acceptsAddress hpages.base
    slugs := fun p hp => stripSlashes_of_acceptsAddress (hpages.slugs p hp).1
    nodup := nodup_slugs h
    formats := fun name hname => lower_strip_of_mem_knownFormats (mem_knownFormats_of_check houtput name hname) }

/-- The types of pages are among those that searches find, if these are limited. -/
theorem mem_types_of_checkTogether (h : s.checkTogether = .ok ()) (hlimited : s.search.types ≠ [])
    {slug : String} {types : List String} (hslug : (slug, types) ∈ s.pages.slugs) {type : String}
    (htype : type ∈ types) : type ∈ s.search.types := by
  rw [AllSettings.checkTogether, check_then_eq_ok_iff, require_eq_ok_iff, require_eq_ok_iff, List.isEmpty_iff,
    List.filter_eq_nil_iff] at h
  have hinside := h.2 type (List.mem_flatMap.mpr ⟨(slug, types), hslug, htype⟩)
  simpa [hlimited] using hinside

end Read

/-- Accepted settings, written as a configuration, are accepted as they are. Their metadata keys and types are clean,
metadata is searched where keys are named, the fields of searches can be named, and pages show no types that searches
do not find. -/
theorem ofEntries_entries_of_accepted {root : Entries} {settings : AllSettings} (h : ofEntries root = .ok settings) :
    ofEntries settings.entries = .ok settings ∧
    IsClean settings.search.metaKeys ∧ IsClean settings.search.types ∧
    (settings.search.metaKeys ≠ [] → settings.search.targetMetadata = true) ∧
    Query.FieldSet.ofNames? (settings.search.fields.fields.map Query.Field.name) settings.search.fields.metaKeys =
      .ok settings.search.fields ∧
    (settings.search.types ≠ [] → ∀ slug types, (slug, types) ∈ settings.pages.slugs →
      ∀ type ∈ types, type ∈ settings.search.types) := by
  have hnormal := isNormal_of_ofEntries h
  have hcheck := (ofEntries_eq_ok_iff.mp h).2
  obtain ⟨-, -, -, -, -, htogether⟩ := AllSettings.check_eq_ok_iff.mp hcheck
  exact ⟨ofEntries_eq_ok_iff.mpr ⟨readAll_entries hnormal, hcheck⟩, hnormal.metaKeys, hnormal.types, hnormal.targeted,
    settings.search.fields.ofNames?_names,
    fun hlimited _ _ hslug _ => mem_types_of_checkTogether htogether hlimited hslug⟩

/-- A configuration that is read into another form: a level in lower case, names with spaces and repetitions, addresses
with slashes around them, and a slug written in two ways. -/
def untidyEntries : Entries := [
  (.text "log", mappingOf [("level", .text "warning"), ("to_file", .bool false), ("dir", .text "")]),
  (.text "search", mappingOf [
    ("expand", .bool true), ("target_meta", .bool false),
    ("meta_keys", .list [.text " place", .text " ", .text "place "]), ("target_types", .text " page "),
    ("max_results", .int 5)]),
  (.text "pages", mappingOf [
    ("search_base", .text "/find/"),
    ("slugs", mappingOf [("/docs", .list [.text "post"]), ("docs/", .text "page")])]),
  (.text "storage", mappingOf [("db_path", .text "records.db")]),
  (.text "output", mappingOf [("formats", .list [.text " JSON", .text "console"])])]

def tidySettings : AllSettings where
  log := ⟨"WARNING", false, ""⟩
  search := { expand := true, targetMetadata := true, metaKeys := ["place"], types := ["page"], maxResults := some 5 }
  pages := ⟨"find", true, false, [("docs", ["page"])]⟩
  databasePath := "records.db"
  output := ⟨"output", [jsonFormat, consoleFormat], true⟩

theorem ofEntries_entries_of_accepted_untidy : ofEntries untidyEntries = .ok tidySettings ∧
    ofEntries tidySettings.entries = .ok tidySettings ∧ tidySettings.search.metaKeys ≠ [] ∧
    tidySettings.search.types ≠ [] ∧ "page" ∈ tidySettings.search.types := by
  have haccepted : ofEntries untidyEntries = .ok tidySettings := by decide +kernel
  obtain ⟨hwritten, -, -, -, -, hinside⟩ := ofEntries_entries_of_accepted haccepted
  have hlimited : tidySettings.search.types ≠ [] := List.cons_ne_nil _ _
  exact ⟨haccepted, hwritten, List.cons_ne_nil _ _, hlimited,
    hinside hlimited "docs" ["page"] (List.mem_singleton_self _) "page" (List.mem_singleton_self _)⟩

end TermSearch.Settings

import TermSearch.Proofs.Traversal
import TermSearch.Settings.Checks
import TermSearch.Settings.Document
import TermSearch.Settings.Layering

/-! What accepted settings are like. A document is accepted where it can be read and every check passes. The marker of
excluded terms is then a single character or none, and the base and the slugs of search pages are addresses: segments
with single slashes between them, and perhaps a line end behind. So no address starts or ends with a slash, and the
pages stand under the slugs as they are read, in that order. -/
namespace TermSearch.Settings

theorem require_eq_ok_iff {condition : Bool} {error : Error} :
    require condition error = .ok () ↔ condition = true := by
  cases condition <;> simp [require]

/-- A check after another one passes where both do. -/
theorem check_then_eq_ok_iff {first second : Except Error Unit} :
    (do first; second) = .ok () ↔ first = .ok () ∧ second = .ok () := by
  rw [bind_eq_ok_iff]
  exact ⟨fun ⟨_, h⟩ => h, fun h => ⟨(), h⟩⟩

theorem ofEntries_eq_ok_iff {root : Entries} {settings : AllSettings} :
    ofEntries root = .ok settings ↔ readAll root = .ok settings ∧ settings.check = .ok () := by
  simp only [ofEntries, bind_eq_ok_iff, pure, Except.pure, Except.ok.injEq]
  constructor
  · rintro ⟨_, hread, _, hcheck, rfl⟩
    exact ⟨hread, hcheck⟩
  · rintro ⟨hread, hcheck⟩
    exact ⟨settings, hread, (), hcheck, rfl⟩

/-- The settings of searches that pass the check. -/
structure SearchSettings.IsAccepted (s : SearchSettings) : Prop where
  results : ∀ n ∈ s.maxResults, 0 < n
  marker : s.marker.length ≤ 1
  unspaced : Text.strip s.marker = s.marker

theorem SearchSettings.check_eq_ok_iff {s : SearchSettings} : s.check = .ok () ↔ s.IsAccepted := by
  simp only [SearchSettings.check, check_then_eq_ok_iff, require_eq_ok_iff, Option.all_eq_true, decide_eq_true_eq,
    beq_iff_eq]
  exact ⟨fun ⟨hresults, hmarker, hunspaced⟩ => ⟨hresults, hmarker, hunspaced⟩,
    fun ⟨hresults, hmarker, hunspaced⟩ => ⟨hresults, hmarker, hunspaced⟩⟩

theorem checkSlugs_eq_ok_iff {slugs : List (String × List String)} :
    checkSlugs slugs = .ok () ↔ ∀ p ∈ slugs, acceptsAddress p.1 = true ∧ p.2 ≠ [] := by
  induction slugs with
  | nil => simp [checkSlugs]
  | cons p rest ih =>
    rw [checkSlugs, check_then_eq_ok_iff, check_then_eq_ok_iff, require_eq_ok_iff, require_eq_ok_iff, ih,
      List.forall_mem_cons, and_assoc]
    simp

/-- The settings of search pages that pass the check. -/
structure PageSettings.IsAccepted (s : PageSettings) : Prop where
  base : acceptsAddress s.base = true
  slugs : ∀ p ∈ s.slugs, acceptsAddress p.1 = true ∧ p.2 ≠ []

theorem PageSettings.check_eq_ok_iff {s : PageSettings} : s.check = .ok () ↔ s.IsAccepted := by
  rw [PageSettings.check, check_then_eq_ok_iff, require_eq_ok_iff, checkSlugs_eq_ok_iff]
  exact ⟨fun ⟨hbase, hslugs⟩ => ⟨hbase, hslugs⟩, fun ⟨hbase, hslugs⟩ => ⟨hbase, hslugs⟩⟩

theorem AllSettings.check_eq_ok_iff {s : AllSettings} : s.check = .ok () ↔ s.log.check = .ok () ∧
    s.search.IsAccepted ∧ s.pages.IsAccepted ∧ (Text.strip s.databasePath).isEmpty = false ∧
    s.output.check = .ok () ∧ s.checkTogether = .ok () := by
  simp only [AllSettings.check, check_then_eq_ok_iff, require_eq_ok_iff, SearchSettings.check_eq_ok_iff,
    PageSettings.check_eq_ok_iff, Bool.not_eq_true']

section Addresses

open Text (splitWhen)

variable {s : List Char}

theorem isSegmentChar_of_mem {piece : List Char} (h : isSegment piece = true) {c : Char} (hc : c ∈ piece) :
    isSegmentChar c = true := by
  cases piece with
  | nil => cases hc
  | cons d rest =>
    obtain ⟨hstart, hrest⟩ := Bool.and_eq_true_iff.mp h
    rcases List.mem_cons.mp hc with rfl | hc
    · rw [isSegmentChar, hstart]
      rfl
    · exact List.all_eq_true.mp hrest c hc

theorem isSegment_of_mem {piece : List Char} (h : isAddress s = true) (hpiece : piece ∈ splitWhen (· == '/') s) :
    isSegment piece = true :=
  List.all_eq_true.mp h piece hpiece

/-- A text of the characters of addresses, with a slash at neither end. A line end is among them, since one behind an
address is accepted. -/
structure IsPath (s : List Char) : Prop where
  ne_nil : s ≠ []
  first : ∀ c ∈ s.head?, c ≠ '/'
  last : ∀ c ∈ s.getLast?, c ≠ '/'
  chars : ∀ c ∈ s, c = '/' ∨ c = '\n' ∨ isSegmentChar c = true

theorem isPath_of_isAddress (h : isAddress s = true) : IsPath s where
  ne_nil := by
    rintro rfl
    cases h
  first := by
    rintro c hc rfl
    cases s with
    | nil => cases hc
    | cons d rest =>
      obtain rfl := Option.some.inj hc
      refine nomatch (isSegment_of_mem h ?_ : isSegment [] = true)
      rw [Text.splitWhen_cons_of_pos rfl]
      exact List.mem_cons_self
  last := by
    rintro c hc rfl
    obtain ⟨front, rfl⟩ := List.getLast?_eq_some_iff.mp hc
    refine nomatch (isSegment_of_mem h ?_ : isSegment [] = true)
    rw [Text.splitWhen_append_cons rfl]
    exact List.mem_append_right _ (List.mem_singleton_self _)
  chars c hc := by
    rcases Text.mem_splitWhen (p := (· == '/')) hc with hslash | ⟨piece, hpiece, hc⟩
    · exact Or.inl (beq_iff_eq.mp hslash)
    · exact Or.inr (Or.inr (isSegmentChar_of_mem (isSegment_of_mem h hpiece) hc))

theorem isPath_of_acceptsAddress {s : String} (h : acceptsAddress s = true) : IsPath s.toList := by
  rw [acceptsAddress, Bool.or_eq_true, Bool.and_eq_true, beq_iff_eq] at h
  rcases h with h | ⟨hend, h⟩
  · exact isPath_of_isAddress h
  · have hpath := isPath_of_isAddress h
    have hs : s.toList = s.toList.dropLast ++ ['\n'] := (List.dropLast_append_getLast? _ hend).symm
    rw [hs]
    refine ⟨by simp, ?_, ?_, ?_⟩
    · intro c hc
      rw [List.head?_append_of_ne_nil _ hpath.ne_nil] at hc
      exact hpath.first c hc
    · intro c hc
      rw [List.getLast?_concat] at hc
      exact Option.some.inj hc ▸ by decide
    · intro c hc
      rcases List.mem_append.mp hc with hc | hc
      · exact hpath.chars c hc
      · exact Or.inr (Or.inl (List.mem_singleton.mp hc))

/-- An accepted address has no slashes around it. -/
theorem stripSlashes_of_acceptsAddress {s : String} (h : acceptsAddress s = true) : Text.stripSlashes s = s := by
  have hpath := isPath_of_acceptsAddress h
  rw [Text.stripSlashes, Text.stripChars_eq_self, String.ofList_toList]
  · exact fun c hc => beq_false_of_ne (hpath.first c hc)
  · exact fun c hc => beq_false_of_ne (hpath.last c hc)

end Addresses

section Pages

open Route (Pages)

/-- Slugs without slashes around them, none of them twice, are the slugs of their pages. -/
theorem slugs_foldl_add {registered slugs : List (String × List String)}
    (hkeys : (Assoc.keys (registered ++ slugs)).Nodup) (hstrip : ∀ p ∈ slugs, Text.stripSlashes p.1 = p.1) :
    (slugs.foldl (fun pages p => pages.add p.1 p.2) (⟨registered⟩ : Pages)).slugs = registered ++ slugs := by
  induction slugs generalizing registered with
  | nil => exact (List.append_nil _).symm
  | cons p slugs ih =>
    have hnew := Assoc.not_mem_keys_of_nodup hkeys
    have hfind : Assoc.find? p.1 registered = none := by
      rw [Option.eq_none_iff_forall_ne_some]
      exact fun types htypes => hnew (Assoc.mem_keys_iff.mpr ⟨types, htypes⟩)
    have hadd : Pages.add ⟨registered⟩ p.1 p.2 = ⟨registered ++ [p]⟩ := by
      rw [Pages.add, hstrip p List.mem_cons_self, Assoc.update, hfind, Assoc.insert_of_not_mem hnew]
      rfl
    rw [List.foldl_cons, hadd, ih (by rwa [List.append_assoc]) fun q hq => hstrip q (List.mem_cons_of_mem _ hq),
      List.append_assoc]
    rfl

end Pages

section Accepted

variable {root : Entries} {settings : AllSettings}

theorem search_isAccepted (h : ofEntries root = .ok settings) : settings.search.IsAccepted :=
  (AllSettings.check_eq_ok_iff.mp (ofEntries_eq_ok_iff.mp h).2).2.1

theorem pages_isAccepted (h : ofEntries root = .ok settings) : settings.pages.IsAccepted :=
  (AllSettings.check_eq_ok_iff.mp (ofEntries_eq_ok_iff.mp h).2).2.2.1

theorem sections_of_readAll (h : readAll root = .ok settings) :
    readLog root = .ok settings.log ∧ readSearch root = .ok settings.search ∧ readPages root = .ok settings.pages ∧
      readStorage root = .ok settings.databasePath ∧ readOutput root = .ok settings.output := by
  simp only [readAll, bind_eq_ok_iff] at h
  obtain ⟨log, hlog, search, hsearch, pages, hpages, path, hpath, output, houtput, hsettings⟩ := h
  obtain rfl := Except.ok.inj hsettings
  exact ⟨hlog, hsearch, hpages, hpath, houtput⟩

theorem readPages_of_ofEntries (h : ofEntries root = .ok settings) : readPages root = .ok settings.pages :=
  (sections_of_readAll (ofEntries_eq_ok_iff.mp h).1).2.2.1

theorem nodup_slugs (h : ofEntries root = .ok settings) : (Assoc.keys settings.pages.slugs).Nodup := by
  have hread := readPages_of_ofEntries h
  simp only [readPages, bind_eq_ok_iff] at hread
  obtain ⟨_, -, slugs, -, _, -, _, -, _, -, hpages⟩ := hread
  rw [← Except.ok.inj hpages]
  exact Assoc.nodup_keys_ofPairs _

/-- The pages of accepted settings stand under the slugs of the settings. -/
theorem slugs_pages (h : ofEntries root = .ok settings) : settings.pages.pages.slugs = settings.pages.slugs :=
  slugs_foldl_add (nodup_slugs h) fun p hp =>
    stripSlashes_of_acceptsAddress ((pages_isAccepted h).slugs p hp).1

end Accepted

/-- The settings of the default configuration. -/
def defaultSettings : AllSettings where
  log := ⟨"INFO", false, "log"⟩
  search := { targetMetadata := true }
  pages := ⟨Route.defaultBase, true, false, []⟩
  databasePath := "database/records.db"
  output := ⟨"output", [consoleFormat], true⟩

theorem ofEntries_defaultEntries : ofEntries defaultEntries = .ok defaultSettings := rfl

end TermSearch.Settings

import Mathlib.Tactic.TFAE
import TermSearch.Proofs.RedirectedQuery

/-! The form of accepted addresses. The base and the slugs of search pages are made of segments with single slashes
between them, but the check lets one line end behind an address pass, which is then carried into the paths and the
patterns. Main statement: the addresses of accepted settings have the form, and all paths and patterns have only its
characters in front of the query, exactly where no address has a line end. -/
namespace TermSearch.Settings

open Route (encodeQuery isPlain pagePath queryRule blankRule)

/-- The characters with which a segment of an address may start. -/
def startChars : List Char :=
  ['a', 'b', 'c', 'd', 'e', 'f', 'g', 'h', 'i', 'j', 'k', 'l', 'm',
   'n', 'o', 'p', 'q', 'r', 's', 't', 'u', 'v', 'w', 'x', 'y', 'z',
   '0', '1', '2', '3', '4', '5', '6', '7', '8', '9']

/-- The characters that may stand in a segment of an address. -/
def segmentChars : List Char := '_' :: '-' :: startChars

/-- A segment of an address: a letter or digit, and more of them, underscores and hyphens behind it. -/
structure SegmentForm (piece : List Char) : Prop where
  start : ∃ c ∈ startChars, piece.head? = some c
  chars : ∀ c ∈ piece, c ∈ segmentChars

/-- An address: one segment or more, with single slashes between them. -/
def AddressForm (s : String) : Prop :=
  ∃ segments, segments ≠ [] ∧ (∀ piece ∈ segments, SegmentForm piece) ∧ s.toList = ['/'].intercalate segments

/-- The characters of addresses. -/
def IsAddressChar (c : Char) : Prop := c = '/' ∨ c ∈ segmentChars

section Characters

theorem isSegmentStart_iff {c : Char} : isSegmentStart c = true ↔ c ∈ startChars := by
  have hletters : ∀ k ∈ List.range 26, Char.ofNat (97 + k) ∈ startChars := by decide
  have hdigits : ∀ k ∈ List.range 10, Char.ofNat (48 + k) ∈ startChars := by decide
  have hstarts : startChars.all isSegmentStart = true := by decide
  refine ⟨fun hstart => ?_, List.all_eq_true.mp hstarts c⟩
  have hranges : 97 ≤ c.toNat ∧ c.toNat ≤ 122 ∨ 48 ≤ c.toNat ∧ c.toNat ≤ 57 := by
    unfold isSegmentStart Char.isLower Char.isDigit at hstart
    simpa [UInt32.le_iff_toNat_le] using hstart
  rw [← Char.ofNat_toNat c]
  rcases hranges with ⟨hlow, hhigh⟩ | ⟨hlow, hhigh⟩
  · obtain ⟨k, hk⟩ := Nat.exists_eq_add_of_le hlow
    exact hk ▸ hletters k (List.mem_range.mpr (by omega))
  · obtain ⟨k, hk⟩ := Nat.exists_eq_add_of_le hlow
    exact hk ▸ hdigits k (List.mem_range.mpr (by omega))

theorem isSegmentChar_iff {c : Char} : isSegmentChar c = true ↔ c ∈ segmentChars := by
  rw [isSegmentChar, Bool.or_eq_true, Bool.or_eq_true, isSegmentStart_iff, beq_iff_eq, beq_iff_eq, segmentChars,
    List.mem_cons, List.mem_cons]
  tauto

theorem isSegment_iff {piece : List Char} : isSegment piece = true ↔ SegmentForm piece := by
  cases piece with
  | nil => exact iff_of_false Bool.false_ne_true fun h => by obtain ⟨_, -, h⟩ := h.start; cases h
  | cons c rest =>
    have hfirst : c ∈ startChars → c ∈ segmentChars := fun h => List.mem_cons_of_mem _ (List.mem_cons_of_mem _ h)
    rw [isSegment, Bool.and_eq_true, isSegmentStart_iff, List.all_eq_true]
    simp only [isSegmentChar_iff]
    constructor
    · rintro ⟨hc, hrest⟩
      exact ⟨⟨c, hc, rfl⟩, List.forall_mem_cons.mpr ⟨hfirst hc, hrest⟩⟩
    · rintro ⟨⟨d, hd, heq⟩, hchars⟩
      obtain rfl := Option.some.inj heq
      exact ⟨hd, (List.forall_mem_cons.mp hchars).2⟩

theorem not_isAddressChar_lineEnd : ¬ IsAddressChar '\n' := by
  rw [IsAddressChar]
  decide

theorem isAddressChar_slash : ∀ c ∈ "/".toList, IsAddressChar c := fun _ hc => Or.inl (by simpa using hc)

end Characters

section Form

variable {s : String}

theorem splitWhen_eq_splitOn (c : Char) (s : List Char) : Text.splitWhen (· == c) s = s.splitOn c := by
  rw [List.splitOn_eq_splitOnP]
  induction s with
  | nil => rfl
  | cons d s ih =>
    rw [Text.splitWhen, List.splitOnP_cons_eq_if_modifyHead, ← ih]
    split
    · rfl
    · cases hpieces : Text.splitWhen (· == c) s with
      | nil => exact absurd hpieces (Text.splitWhen_ne_nil _ s)
      | cons first others => rfl

theorem isAddress_iff : isAddress s.toList = true ↔ AddressForm s := by
  rw [isAddress, List.all_eq_true]
  simp only [isSegment_iff, splitWhen_eq_splitOn]
  constructor
  · intro h
    refine ⟨s.toList.splitOn '/', ?_, h, (List.intercalate_splitOn '/').symm⟩
    rw [← splitWhen_eq_splitOn]
    exact Text.splitWhen_ne_nil _ _
  · rintro ⟨segments, hne, hsegments, hs⟩
    have hslash : ∀ piece ∈ segments, '/' ∉ piece := fun piece hpiece hmem =>
      absurd ((hsegments piece hpiece).chars '/' hmem) (by decide)
    rwa [hs, List.splitOn_intercalate '/' hslash hne]

/-- What the check lets pass: addresses, and addresses with one line end behind them. -/
theorem acceptsAddress_iff :
    acceptsAddress s = true ↔ AddressForm s ∨ ∃ front, AddressForm front ∧ s = front ++ "\n" := by
  rw [acceptsAddress, Bool.or_eq_true, Bool.and_eq_true, beq_iff_eq, isAddress_iff]
  refine or_congr_right ?_
  constructor
  · rintro ⟨hlast, hfront⟩
    refine ⟨String.ofList s.toList.dropLast, isAddress_iff.mp (by rwa [String.toList_ofList]), String.toList_inj.mp ?_⟩
    rw [String.toList_append, String.toList_ofList]
    exact (List.dropLast_append_getLast? _ hlast).symm
  · rintro ⟨front, hfront, rfl⟩
    have hlist : (front ++ "\n").toList = front.toList ++ ['\n'] := String.toList_append
    rw [hlist, List.getLast?_concat, List.dropLast_concat, isAddress_iff]
    exact ⟨rfl, hfront⟩

theorem AddressForm.isAddressChar (h : AddressForm s) : ∀ c ∈ s.toList, IsAddressChar c := by
  intro c hc
  have haddress := isAddress_iff.mpr h
  rcases Text.mem_splitWhen (p := (· == '/')) hc with hslash | ⟨piece, hpiece, hc⟩
  · exact Or.inl (beq_iff_eq.mp hslash)
  · exact Or.inr (isSegmentChar_iff.mp (isSegmentChar_of_mem (isSegment_of_mem haddress hpiece) hc))

/-- An accepted address has the form of addresses exactly where it has no line end. -/
theorem addressForm_iff (h : acceptsAddress s = true) : AddressForm s ↔ '\n' ∉ s.toList := by
  constructor
  · exact fun hform hmem => not_isAddressChar_lineEnd (hform.isAddressChar _ hmem)
  · intro hline
    refine (acceptsAddress_iff.mp h).resolve_right ?_
    rintro ⟨front, -, rfl⟩
    rw [String.toList_append, List.mem_append] at hline
    exact hline (Or.inr (by decide))

end Form

/-- The addresses of settings: the base of search pages and their slugs. -/
def PageSettings.addresses (s : PageSettings) : List String := s.base :: Assoc.keys s.slugs

/-- In front of the query, all paths of redirections have the characters of addresses only. -/
def PageSettings.RedirectsCleanly (s : PageSettings) : Prop :=
  ∀ allowSlash query types, ∃ front,
    s.pages.redirectPath s.base allowSlash query types = front ++ encodeQuery allowSlash query ∧
      ∀ c ∈ front.toList, IsAddressChar c

/-- In front of the query, all patterns of routing rules have the characters of addresses only. -/
def PageSettings.RoutesCleanly (s : PageSettings) : Prop :=
  ∀ blankQuery, ∀ rule ∈ s.pages.routingRules s.base blankQuery, ∃ front,
    (rule.1 = front ++ "/(.+)/?$" ∨ rule.1 = front ++ "/?$") ∧ ∀ c ∈ front.toList, IsAddressChar c

section Cleanness

variable {root : Entries} {settings : AllSettings}

theorem isAddressChar_of_mem_pagePath {base slug : String} (hbase : ∀ c ∈ base.toList, IsAddressChar c)
    (hslug : ∀ c ∈ slug.toList, IsAddressChar c) : ∀ c ∈ (pagePath base slug).toList, IsAddressChar c := by
  simp only [pagePath, String.toList_append, List.forall_mem_append]
  exact ⟨⟨hslug, isAddressChar_slash⟩, hbase⟩

theorem acceptsAddress_of_mem_addresses (h : ofEntries root = .ok settings) :
    ∀ a ∈ settings.pages.addresses, acceptsAddress a = true := by
  rw [PageSettings.addresses, List.forall_mem_cons]
  refine ⟨(pages_isAccepted h).base, fun a ha => ?_⟩
  obtain ⟨p, hp, rfl⟩ := List.mem_map.mp ha
  exact ((pages_isAccepted h).slugs p hp).1

theorem redirectsCleanly (h : ofEntries root = .ok settings)
    (hforms : ∀ a ∈ settings.pages.addresses, AddressForm a) : settings.pages.RedirectsCleanly := by
  intro allowSlash query types
  refine ⟨_, rfl, ?_⟩
  have hbase := (hforms settings.pages.base List.mem_cons_self).isAddressChar
  have hslug : ∀ c ∈ (settings.pages.pages.slugFor types).toList, IsAddressChar c := by
    by_cases hnone : settings.pages.pages.slugFor types = ""
    · simp [hnone]
    · obtain ⟨before, page, after, hslugs, hpage⟩ := Route.exists_page hnone
      rw [slugs_pages h] at hslugs
      have hmem : page.1 ∈ Assoc.keys settings.pages.slugs := List.mem_map_of_mem (by simp [hslugs])
      exact hpage ▸ (hforms page.1 (List.mem_cons_of_mem _ hmem)).isAddressChar
  simp only [String.toList_append, List.forall_mem_append]
  refine ⟨⟨?_, hbase⟩, isAddressChar_slash⟩
  split
  · exact isAddressChar_slash
  · simp only [String.toList_append, List.forall_mem_append]
    exact ⟨⟨isAddressChar_slash, hslug⟩, isAddressChar_slash⟩

theorem routingRules_pages (h : ofEntries root = .ok settings) (blankQuery : Bool) :
    settings.pages.pages.routingRules settings.pages.base blankQuery =
      (if blankQuery then [(settings.pages.base ++ "/?$", "index.php?s=")] else []) ++
        settings.pages.slugs.flatMap fun p => [queryRule settings.pages.base p, blankRule settings.pages.base p] := by
  have hrules := (Route.arePages_of_ofEntries h).routingRules_eq blankQuery
  rwa [← slugs_pages h] at hrules ⊢

theorem routesCleanly (h : ofEntries root = .ok settings)
    (hforms : ∀ a ∈ settings.pages.addresses, AddressForm a) : settings.pages.RoutesCleanly := by
  intro blankQuery rule hrule
  have hbase := (hforms settings.pages.base List.mem_cons_self).isAddressChar
  rw [routingRules_pages h, List.mem_append, List.mem_flatMap] at hrule
  rcases hrule with hrule | ⟨p, hp, hrule⟩
  · cases blankQuery with
    | false => cases hrule
    | true =>
      obtain rfl := List.mem_singleton.mp hrule
      exact ⟨settings.pages.base, Or.inr rfl, hbase⟩
  · have hslug := (hforms p.1 (List.mem_cons_of_mem _ (List.mem_map_of_mem hp))).isAddressChar
    refine ⟨pagePath settings.pages.base p.1, ?_, isAddressChar_of_mem_pagePath hbase hslug⟩
    rw [List.mem_cons, List.mem_singleton] at hrule
    refine hrule.imp ?_ ?_
    · rintro rfl
      rfl
    · rintro rfl
      rfl

/-- What stands in front of the end of a pattern is determined by the pattern. -/
theorem eq_of_blankPattern {path front : String} (hpath : ∀ c ∈ path.toList, isPlain c = true)
    (h : path ++ "/?$" = front ++ "/(.+)/?$" ∨ path ++ "/?$" = front ++ "/?$") : path = front :=
  (String.append_left_inj _).mp (h.resolve_left (Route.queryPattern_ne_blankPattern hpath).symm)

theorem not_mem_of_routesCleanly (h : ofEntries root = .ok settings) (hclean : settings.pages.RoutesCleanly) :
    ∀ a ∈ settings.pages.addresses, '\n' ∉ a.toList := by
  have hpages := Route.arePages_of_ofEntries h
  -- every path with a pattern for the empty query is clean, and every address is part of such a path
  have hpath : ∀ path request, (path ++ "/?$", request) ∈
      settings.pages.pages.routingRules settings.pages.base true → (∀ c ∈ path.toList, isPlain c = true) →
      '\n' ∉ path.toList := by
    intro path request hrule hplain hmem
    obtain ⟨front, hpattern, hchars⟩ := hclean true _ hrule
    rw [eq_of_blankPattern hplain hpattern] at hmem
    exact not_isAddressChar_lineEnd (hchars _ hmem)
  rw [routingRules_pages h, if_pos rfl] at hpath
  rw [PageSettings.addresses, List.forall_mem_cons]
  refine ⟨hpath _ _ List.mem_cons_self (Route.isPlain_of_mem hpages.basePath), fun a ha hmem => ?_⟩
  obtain ⟨p, hp, rfl⟩ := List.mem_map.mp ha
  refine hpath (pagePath settings.pages.base p.1) (blankRule settings.pages.base p).2 ?_
    (Route.isPlain_of_mem_pagePath hpages.basePath (hpages.slugPath p hp)) ?_
  · exact List.mem_append_right _ (List.mem_flatMap.mpr ⟨p, hp, List.mem_cons_of_mem _ List.mem_cons_self⟩)
  · rw [pagePath, String.toList_append, String.toList_append]
    exact List.mem_append_left _ (List.mem_append_left _ hmem)

end Cleanness

/-- The addresses of accepted settings have the form of addresses, but for one line end that may stand behind each of
them. They all have the form, and the paths and patterns made of them have no other characters in front of the query,
exactly where no address has a line end. -/
theorem addresses_form_tfae {root : Entries} {settings : AllSettings} (h : ofEntries root = .ok settings) :
    (∀ a ∈ settings.pages.addresses, AddressForm a ∨ ∃ front, AddressForm front ∧ a = front ++ "\n") ∧
    [∀ a ∈ settings.pages.addresses, '\n' ∉ a.toList,
      ∀ a ∈ settings.pages.addresses, AddressForm a,
      settings.pages.RedirectsCleanly ∧ settings.pages.RoutesCleanly].TFAE := by
  have haccepted := acceptsAddress_of_mem_addresses h
  refine ⟨fun a ha => acceptsAddress_iff.mp (haccepted a ha), ?_⟩
  tfae_have 1 ↔ 2 := forall₂_congr fun a ha => (addressForm_iff (haccepted a ha)).symm
  tfae_have 2 → 3 := fun hforms => ⟨redirectsCleanly h hforms, routesCleanly h hforms⟩
  tfae_have 3 → 1 := fun hclean => not_mem_of_routesCleanly h hclean.2
  tfae_finish

theorem addresses_form_tfae_news :
    ofEntries (Route.entriesWith [("/news/eu_1/", ["post"])]) = .ok (Route.settingsWith [("news/eu_1", ["post"])]) ∧
    ∀ a ∈ ["search", "news/eu_1"], AddressForm a := by
  have haccepted : ofEntries (Route.entriesWith [("/news/eu_1/", ["post"])]) =
      .ok (Route.settingsWith [("news/eu_1", ["post"])]) := rfl
  refine ⟨haccepted, ((addresses_form_tfae haccepted).2.out 0 1).mp ?_⟩
  decide

/-- The default configuration with another base of search pages. -/
def entriesWithBase (base : String) : Entries :=
  merge defaultEntries [(.text "pages", mappingOf [("search_base", .text base)])]

/-- The settings of the default configuration with another base of search pages. -/
def settingsWithBase (base : String) : AllSettings :=
  { defaultSettings with pages := { defaultSettings.pages with base := base } }

/-- A base with a line end behind it is accepted, and the line end stands in the path of every query. -/
theorem exists_address_with_lineEnd :
    ofEntries (entriesWithBase "search\n") = .ok (settingsWithBase "search\n") ∧ ¬ AddressForm "search\n" ∧
    (settingsWithBase "search\n").pages.pages.redirectPath "search\n" true "moon" [] = "/search\n/moon" := by
  refine ⟨rfl, fun hform => ?_, by decide +kernel⟩
  exact not_isAddressChar_lineEnd (hform.isAddressChar '\n' (by decide))

end TermSearch.Settings

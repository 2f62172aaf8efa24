import Mathlib.Data.List.Nodup
import TermSearch.Proofs.AcceptedSettings
import TermSearch.Proofs.QueryCode
import TermSearch.Proofs.RuleMatching

/-! Where a redirected query arrives. The path of a query on a page is the path of the page with the code of the query
behind it, and the rules of the page are made for it; but the rules are tried in the order of the pages, and a slug may
extend another one in such a way that the rule of an earlier page takes the path. Main statement: the query arrives at
its page, with its code, exactly where no earlier page intercepts it. -/
namespace TermSearch.Route

open Settings (IsPath)

/-- The path of a page. -/
def pagePath (base slug : String) : String := slug ++ "/" ++ base

/-- The rule of a page for its queries. -/
def queryRule (base : String) (page : String × List String) : Pages.RoutingRule :=
  (pagePath base page.1 ++ "/(.+)/?$", "index.php?post_type=" ++ ",".intercalate page.2 ++ "&s=$matches[1]")

/-- The rule of a page for the empty query. -/
def blankRule (base : String) (page : String × List String) : Pages.RoutingRule :=
  (pagePath base page.1 ++ "/?$", "index.php?post_type=" ++ ",".intercalate page.2 ++ "&s=")

theorem slugRules_eq (base : String) (page : String × List String) :
    Pages.slugRules base page.1 page.2 = [queryRule base page, blankRule base page] := rfl

/-- What a query on a page is meant to reach: a rule of the page, with the code of the query captured. -/
def intended (base : String) (page : String × List String) (allowSlash : Bool) (query : String) :
    Pages.RoutingRule × List String :=
  if query = "" then (blankRule base page, []) else (queryRule base page, [encodeQuery allowSlash query])

/-- An earlier page takes a path from a later one: the path of the later page goes through that of the earlier one, or
the path with the code of the query is the path of the earlier page. -/
def Intercepts (base earlier slug code : String) : Prop :=
  (∃ rest, rest ≠ "" ∧ '\n' ∉ rest.toList ∧ pagePath base slug ++ "/" = pagePath base earlier ++ "/" ++ rest) ∨
    pagePath base slug ++ "/" ++ code = pagePath base earlier

theorem isPlain_of_isSegmentChar {c : Char} (h : Settings.isSegmentChar c = true) : isPlain c = true := by
  by_contra hnot
  simp only [isPlain, specialChars, Bool.not_eq_true, Bool.not_eq_false', List.contains_iff_mem, List.mem_cons,
    List.not_mem_nil, or_false] at hnot
  rcases hnot with rfl | rfl | rfl | rfl | rfl | rfl | rfl | rfl | rfl | rfl | rfl | rfl | rfl | rfl <;>
    exact absurd h (by decide)

theorem isPlain_of_mem {s : List Char} (h : IsPath s) : ∀ c ∈ s, isPlain c = true := by
  intro c hc
  rcases h.chars c hc with rfl | rfl | hsegment
  · decide
  · decide
  · exact isPlain_of_isSegmentChar hsegment

theorem isPlain_of_mem_pagePath {base slug : String} (hbase : IsPath base.toList) (hslug : IsPath slug.toList) :
    ∀ c ∈ (pagePath base slug).toList, isPlain c = true := by
  intro c hc
  simp only [pagePath, String.toList_append, List.mem_append] at hc
  rcases hc with (hc | hc) | hc
  · exact isPlain_of_mem hslug c hc
  · obtain rfl : c = '/' := by simpa using hc
    decide
  · exact isPlain_of_mem hbase c hc

theorem pagePath_inj {base slug other : String} : pagePath base slug = pagePath base other ↔ slug = other := by
  refine ⟨fun h => ?_, fun h => h ▸ rfl⟩
  have hlists := congrArg String.toList h
  simp only [pagePath, String.toList_append, List.append_assoc] at hlists
  exact String.toList_inj.mp (List.append_cancel_right hlists)

/-- Two paths with a slash and something behind it are one, where the slash of the first is its last: then the first
slash goes through the second path. -/
theorem append_slash_eq_iff {a b code rest : List Char} (hab : a ≠ b) (hcode : '/' ∉ code) :
    a ++ '/' :: code = b ++ '/' :: rest ↔ ∃ mid, mid ≠ [] ∧ a ++ ['/'] = b ++ '/' :: mid ∧ rest = mid ++ code := by
  constructor
  · intro h
    have hsplit : (a ++ ['/']) ++ code = (b ++ ['/']) ++ rest := by simpa using h
    rcases List.append_eq_append_iff.mp hsplit with ⟨more, hpath, rfl⟩ | ⟨mid, hpath, rfl⟩
    · rcases List.eq_nil_or_concat' more with rfl | ⟨front, last, rfl⟩
      · rw [List.append_nil] at hpath
        exact absurd (List.append_cancel_right hpath).symm hab
      · rw [← List.append_assoc] at hpath
        obtain rfl := List.singleton_inj.mp (List.append_inj_right' hpath rfl)
        exact absurd (by simp) hcode
    · refine ⟨mid, ?_, by simpa using hpath, rfl⟩
      rintro rfl
      rw [List.append_nil] at hpath
      exact hab (List.append_cancel_right hpath)
  · rintro ⟨mid, -, hpath, rfl⟩
    have hsplit : (a ++ ['/']) ++ code = (b ++ '/' :: mid) ++ code := by rw [hpath]
    simpa using hsplit

/-- Pages under addresses, none of them twice, behind a base that is an address. -/
structure ArePages (base : String) (slugs : List (String × List String)) : Prop where
  basePath : IsPath base.toList
  slugPath : ∀ p ∈ slugs, IsPath p.1.toList
  nodup : (Assoc.keys slugs).Nodup

theorem arePages_of_ofEntries {root : Settings.Entries} {settings : Settings.AllSettings}
    (h : Settings.ofEntries root = .ok settings) : ArePages settings.pages.base settings.pages.slugs where
  basePath := Settings.isPath_of_acceptsAddress (Settings.pages_isAccepted h).base
  slugPath p hp := Settings.isPath_of_acceptsAddress ((Settings.pages_isAccepted h).slugs p hp).1
  nodup := Settings.nodup_slugs h

section Rules

variable {base : String} {slugs : List (String × List String)}

theorem not_mem_toList_blankPattern {front : String} (h : ∀ c ∈ front.toList, isPlain c = true) :
    '(' ∉ (front ++ "/?$").toList := by
  rw [String.toList_append, List.mem_append]
  rintro (hc | hc)
  · exact absurd (h '(' hc) (by decide)
  · exact absurd hc (by decide)

theorem queryPattern_ne_blankPattern {front other : String} (h : ∀ c ∈ other.toList, isPlain c = true) :
    front ++ "/(.+)/?$" ≠ other ++ "/?$" := by
  intro heq
  refine not_mem_toList_blankPattern h ?_
  rw [← heq, String.toList_append]
  exact List.mem_append_right _ (by decide)

/-- The patterns of the pages are all different. -/
theorem ArePages.nodup_patterns (h : ArePages base slugs) :
    (Assoc.keys (slugs.flatMap fun p => Pages.slugRules base p.1 p.2)).Nodup := by
  rw [Assoc.keys, List.map_flatMap, List.nodup_flatMap]
  refine ⟨fun p hp => ?_, ?_⟩
  · have hplain := isPlain_of_mem_pagePath h.basePath (h.slugPath p hp)
    simp [slugRules_eq, queryRule, blankRule, queryPattern_ne_blankPattern hplain]
  · refine List.Pairwise.imp_of_mem ?_ (List.pairwise_map.mp h.nodup)
    intro p q hp hq hpq
    have hpages : pagePath base p.1 ≠ pagePath base q.1 := fun heq => hpq (pagePath_inj.mp heq)
    have hplain := isPlain_of_mem_pagePath h.basePath (h.slugPath p hp)
    have hplain' := isPlain_of_mem_pagePath h.basePath (h.slugPath q hq)
    simp [slugRules_eq, queryRule, blankRule, List.Disjoint, hpages, hpages.symm, queryPattern_ne_blankPattern hplain,
      queryPattern_ne_blankPattern hplain']

/-- The rules stand as they are made: no two of them share a pattern. -/
theorem ArePages.routingRules_eq (h : ArePages base slugs) (blankQuery : Bool) :
    Pages.routingRules ⟨slugs⟩ base blankQuery = (if blankQuery then [(base ++ "/?$", "index.php?s=")] else []) ++
      slugs.flatMap fun p => Pages.slugRules base p.1 p.2 := by
  refine Assoc.ofPairs_of_nodup ?_
  cases blankQuery with
  | false => exact h.nodup_patterns
  | true =>
    refine List.nodup_cons.mpr ⟨fun hmem => ?_, h.nodup_patterns⟩
    obtain ⟨rule, hrule, hpattern⟩ := List.mem_map.mp hmem
    obtain ⟨p, hp, hrule⟩ := List.mem_flatMap.mp hrule
    have hpatterns : base ++ "/?$" = pagePath base p.1 ++ "/(.+)/?$" ∨ base ++ "/?$" = pagePath base p.1 ++ "/?$" := by
      rw [slugRules_eq, List.mem_cons, List.mem_singleton] at hrule
      refine hrule.imp ?_ ?_
      · rintro rfl
        exact hpattern.symm
      · rintro rfl
        exact hpattern.symm
    rcases hpatterns with hpattern | hpattern
    · exact queryPattern_ne_blankPattern (isPlain_of_mem h.basePath) hpattern.symm
    · have hlengths := congrArg String.length hpattern
      simp only [pagePath, String.length_append] at hlengths
      have hslash : "/".length = 1 := rfl
      omega

end Rules

section Arrival

variable {base slug code : String}

/-- The path of a query on a page, without the slash in front. -/
def queryPath (base slug code : String) : List Char := (pagePath base slug).toList ++ '/' :: code.toList

theorem getLast?_queryPath (hline : '\n' ∉ code.toList) : (queryPath base slug code).getLast? ≠ some '\n' := by
  rw [queryPath, List.getLast?_append, List.getLast?_cons]
  cases hlast : code.toList.getLast? with
  | none => simp
  | some c =>
    intro heq
    obtain rfl : c = '\n' := Option.some.inj heq
    exact hline (List.mem_of_getLast? hlast)

theorem not_mem_encodeQuery {d : Char} (hd : isUnreserved d = false) (hpercent : d ≠ '%') (allowSlash : Bool)
    (query : String) : d ∉ (encodeQuery allowSlash query).toList :=
  fun hmem => ne_of_mem_encodeQuery hd hpercent allowSlash query d hmem rfl

/-- The rule of the plain search page takes no query of another page. -/
theorem captured?_base_eq_none {request : String} (hbase : ∀ c ∈ base.toList, isPlain c = true) (hslug : slug ≠ "")
    (hline : '\n' ∉ code.toList) : captured? (base ++ "/?$", request) (queryPath base slug code) = none := by
  rw [Option.eq_none_iff_forall_ne_some]
  intro captured hcaptured
  have hlength : slug.toList.length ≠ 0 := by simpa using hslug
  have hseparator : "/".toList.length = 1 := rfl
  rcases ((captured?_blank_iff hbase (getLast?_queryPath hline)).mp hcaptured).2 with hpath | hpath
  all_goals
    have hlengths := congrArg List.length hpath
    simp only [queryPath, pagePath, String.toList_append, List.length_append, List.length_cons,
      List.length_nil] at hlengths
    omega

theorem intended_mem_slugRules (base : String) (page : String × List String) (allowSlash : Bool) (query : String) :
    (intended base page allowSlash query).1 ∈ Pages.slugRules base page.1 page.2 := by
  rw [slugRules_eq, intended]
  split <;> simp

/-- Among the rules of its own page, a query reaches what it is meant to reach. -/
theorem firstMatch?_slugRules_own {page : String × List String}
    (hplain : ∀ c ∈ (pagePath base page.1).toList, isPlain c = true) (allowSlash : Bool) (query : String) :
    firstMatch? (Pages.slugRules base page.1 page.2) (queryPath base page.1 (encodeQuery allowSlash query)) =
      some (intended base page allowSlash query) := by
  have hline := not_mem_encodeQuery (d := '\n') (by decide) (by decide) allowSlash query
  have hlast : (queryPath base page.1 (encodeQuery allowSlash query)).getLast? ≠ some '\n' := getLast?_queryPath hline
  rw [slugRules_eq, firstMatch?_cons, firstMatch?_cons, intended]
  by_cases hquery : query = ""
  · have hcode : encodeQuery allowSlash query = "" := encodeQuery_eq_empty_iff.mpr hquery
    rw [hcode] at hlast ⊢
    have hnone : captured? (queryRule base page) (queryPath base page.1 "") = none := by
      rw [Option.eq_none_iff_forall_ne_some]
      intro captured hcaptured
      obtain ⟨rest, hrest, hne, -⟩ := (captured?_query_iff hplain hlast).mp hcaptured
      exact hne (List.cons.inj (List.append_cancel_left hrest)).2.symm
    have hblank : captured? (blankRule base page) (queryPath base page.1 "") = some [] :=
      (captured?_blank_iff hplain hlast).mpr ⟨rfl, Or.inr rfl⟩
    rw [hnone, hblank, if_pos hquery]
    rfl
  · have hcode : (encodeQuery allowSlash query).toList ≠ [] := by
      rw [ne_eq, String.toList_eq_nil_iff, encodeQuery_eq_empty_iff]
      exact hquery
    have hsome : captured? (queryRule base page) (queryPath base page.1 (encodeQuery allowSlash query)) =
        some [encodeQuery allowSlash query] :=
      (captured?_query_iff hplain hlast).mpr ⟨_, rfl, hcode, hline, by rw [String.ofList_toList]⟩
    rw [hsome, if_neg hquery]
    rfl

/-- The rules of another page take a query exactly where this page intercepts it. -/
theorem firstMatch?_slugRules_other {other : String × List String}
    (hplain : ∀ c ∈ (pagePath base other.1).toList, isPlain c = true) (hline : '\n' ∉ code.toList)
    (hslash : '/' ∉ code.toList) (hne : other.1 ≠ slug) :
    firstMatch? (Pages.slugRules base other.1 other.2) (queryPath base slug code) = none ↔
      ¬ Intercepts base other.1 slug code := by
  have hlast : (queryPath base slug code).getLast? ≠ some '\n' := getLast?_queryPath hline
  have hpages : (pagePath base slug).toList ≠ (pagePath base other.1).toList := fun heq =>
    hne (pagePath_inj.mp (String.toList_inj.mp heq)).symm
  have hquery : captured? (queryRule base other) (queryPath base slug code) = none ↔
      ¬ ∃ rest, rest ≠ "" ∧ '\n' ∉ rest.toList ∧ pagePath base slug ++ "/" = pagePath base other.1 ++ "/" ++ rest := by
    rw [← not_iff_not, not_not, ← ne_eq, Option.ne_none_iff_exists']
    simp only [queryRule, captured?_query_iff hplain hlast]
    constructor
    · rintro ⟨_, rest, hrest, -, hclean, -⟩
      obtain ⟨mid, hmid, hpath, rfl⟩ := (append_slash_eq_iff hpages hslash).mp hrest
      refine ⟨String.ofList mid, mt String.ofList_eq_empty_iff.mp hmid, ?_, String.toList_inj.mp ?_⟩
      · rw [String.toList_ofList]
        exact fun hmem => hclean (List.mem_append_left _ hmem)
      · simpa using hpath
    · rintro ⟨mid, hmid, hclean, hpath⟩
      have hpath' : (pagePath base slug).toList ++ ['/'] = (pagePath base other.1).toList ++ '/' :: mid.toList := by
        simpa using congrArg String.toList hpath
      have hne : mid.toList ≠ [] := by simpa using hmid
      refine ⟨_, mid.toList ++ code.toList, (append_slash_eq_iff hpages hslash).mpr ⟨_, hne, hpath', rfl⟩, ?_, ?_, rfl⟩
      · simp [hne]
      · simp [hclean, hline]
  have hblank : captured? (blankRule base other) (queryPath base slug code) = none ↔
      ¬ pagePath base slug ++ "/" ++ code = pagePath base other.1 := by
    rw [← not_iff_not, not_not, ← ne_eq, Option.ne_none_iff_exists']
    simp only [blankRule, captured?_blank_iff hplain hlast, exists_eq_left]
    constructor
    · rintro (hpath | hpath)
      · refine String.toList_inj.mp ?_
        simpa [queryPath] using hpath
      · obtain ⟨mid, hmid, -, hrest⟩ := (append_slash_eq_iff hpages hslash).mp hpath
        exact absurd (List.append_eq_nil_iff.mp hrest.symm).1 hmid
    · intro hpath
      refine Or.inl ?_
      simpa [queryPath] using congrArg String.toList hpath
  rw [slugRules_eq, firstMatch?_eq_none_iff, List.forall_mem_cons, List.forall_mem_singleton, hquery, hblank,
    ← not_or, Intercepts]

end Arrival

/-- Among the rules of all pages, a query reaches what it is meant to reach exactly where no page in front of its own
one intercepts it. -/
theorem ArePages.firstMatch?_iff {base : String} {before after : List (String × List String)}
    {page : String × List String} (h : ArePages base (before ++ page :: after)) (hslug : page.1 ≠ "")
    (blankQuery allowSlash : Bool) (query : String) :
    firstMatch? (Pages.routingRules ⟨before ++ page :: after⟩ base blankQuery)
        (queryPath base page.1 (encodeQuery allowSlash query)) = some (intended base page allowSlash query) ↔
      ∀ p ∈ before, ¬ Intercepts base p.1 page.1 (encodeQuery allowSlash query) := by
  have hline := not_mem_encodeQuery (d := '\n') (by decide) (by decide) allowSlash query
  have hslash := not_mem_encodeQuery (d := '/') (by decide) (by decide) allowSlash query
  have hpage : page ∈ before ++ page :: after := by simp
  have hown := firstMatch?_slugRules_own (isPlain_of_mem_pagePath h.basePath (h.slugPath page hpage)) allowSlash query
  have hbase : firstMatch? (if blankQuery then [(base ++ "/?$", "index.php?s=")] else [])
      (queryPath base page.1 (encodeQuery allowSlash query)) = none := by
    cases blankQuery with
    | false => rfl
    | true =>
      rw [firstMatch?_eq_none_iff, if_pos rfl, List.forall_mem_singleton]
      exact captured?_base_eq_none (isPlain_of_mem h.basePath) hslug hline
  have hnew : ∀ p ∈ before, p.1 ≠ page.1 := fun p hp heq =>
    Assoc.not_mem_keys_of_nodup h.nodup (heq ▸ List.mem_map_of_mem hp)
  have hbefore : firstMatch? (before.flatMap fun p => Pages.slugRules base p.1 p.2)
      (queryPath base page.1 (encodeQuery allowSlash query)) = none ↔
      ∀ p ∈ before, ¬ Intercepts base p.1 page.1 (encodeQuery allowSlash query) := by
    rw [firstMatch?_eq_none_iff, List.forall_mem_flatMap]
    refine forall₂_congr fun p hp => ?_
    rw [← firstMatch?_eq_none_iff]
    have hplain := isPlain_of_mem_pagePath h.basePath (h.slugPath p (List.mem_append_left _ hp))
    exact firstMatch?_slugRules_other hplain hline hslash (hnew p hp)
  -- a rule of an earlier page is not the rule that the query is meant to reach
  have hforeign : firstMatch? (before.flatMap fun p => Pages.slugRules base p.1 p.2)
      (queryPath base page.1 (encodeQuery allowSlash query)) ≠ some (intended base page allowSlash query) := by
    intro heq
    have hpatterns := h.nodup_patterns
    rw [List.flatMap_append, Assoc.keys, List.map_append, List.nodup_append] at hpatterns
    have hown := List.mem_append_left (after.flatMap fun p => Pages.slugRules base p.1 p.2)
      (intended_mem_slugRules base page allowSlash query)
    exact hpatterns.2.2 _ (List.mem_map_of_mem (mem_of_firstMatch? heq)) _ (List.mem_map_of_mem hown) rfl
  rw [h.routingRules_eq, List.flatMap_append, List.flatMap_cons, firstMatch?_append, hbase, Option.none_or,
    firstMatch?_append, firstMatch?_append, hown, ← hbefore]
  cases hfirst : firstMatch? (before.flatMap fun p => Pages.slugRules base p.1 p.2)
      (queryPath base page.1 (encodeQuery allowSlash query)) with
  | none => simp
  | some found =>
    rw [hfirst] at hforeign
    simpa using hforeign

/-- The path of a redirection to a page, without the slash in front. -/
theorem drop_redirectPath {pages : Pages} {types : List String} (h : pages.slugFor types ≠ "") (base : String)
    (allowSlash : Bool) (query : String) : (pages.redirectPath base allowSlash query types).toList.drop 1 =
      queryPath base (pages.slugFor types) (encodeQuery allowSlash query) := by
  have hslug : (pages.slugFor types).isEmpty = false := by simpa using h
  rw [Pages.redirectPath, hslug]
  simp [queryPath, pagePath]

/-- The page that shows a type stands among the pages, behind pages that show none of the types. -/
theorem exists_page {pages : Pages} {types : List String} (h : pages.slugFor types ≠ "") :
    ∃ before page after, pages.slugs = before ++ page :: after ∧ page.1 = pages.slugFor types := by
  cases hfind : pages.slugs.find? fun p => types.any p.2.contains with
  | none => exact absurd (by rw [Pages.slugFor, Pages.slugFor?, hfind]; rfl) h
  | some page =>
    obtain ⟨-, before, after, hslugs, -⟩ := List.find?_eq_some_iff_append.mp hfind
    exact ⟨before, page, after, hslugs, by rw [Pages.slugFor, Pages.slugFor?, hfind]; rfl⟩

/-- In an accepted configuration, a query that is redirected to a page arrives there, at the rule that is meant for it
and with its code captured, exactly where no page in front of this one intercepts it. -/
theorem firstMatch?_redirectPath_iff {root : Settings.Entries} {settings : Settings.AllSettings}
    (h : Settings.ofEntries root = .ok settings) (blankQuery allowSlash : Bool) (query : String) {types : List String}
    (hslug : settings.pages.pages.slugFor types ≠ "") :
    ∃ before page after, settings.pages.pages.slugs = before ++ page :: after ∧
      page.1 = settings.pages.pages.slugFor types ∧
      (firstMatch? (settings.pages.pages.routingRules settings.pages.base blankQuery)
          ((settings.pages.pages.redirectPath settings.pages.base allowSlash query types).toList.drop 1) =
          some (intended settings.pages.base page allowSlash query) ↔
        ∀ p ∈ before, ¬ Intercepts settings.pages.base p.1 page.1 (encodeQuery allowSlash query)) := by
  obtain ⟨before, page, after, hslugs, hpage⟩ := exists_page hslug
  have hpages := arePages_of_ofEntries h
  rw [← Settings.slugs_pages h, hslugs] at hpages
  refine ⟨before, page, after, hslugs, hpage, ?_⟩
  rw [drop_redirectPath hslug, ← hpage, ← hpages.firstMatch?_iff (hpage ▸ hslug) blankQuery, ← hslugs]

/-- The default configuration with some pages. -/
def entriesWith (slugs : List (String × List String)) : Settings.Entries :=
  Settings.merge Settings.defaultEntries [(.text "pages", Settings.mappingOf
    [("slugs", Settings.mappingOf (slugs.map fun p => (p.1, .list (p.2.map .text))))])]

/-- The settings of the default configuration with some pages. -/
def settingsWith (slugs : List (String × List String)) : Settings.AllSettings :=
  { Settings.defaultSettings with pages := { Settings.defaultSettings.pages with slugs := slugs } }

/-- The settings of two pages of which the path of one goes through that of the other; this one stands last. -/
def innerFirst : Settings.AllSettings := settingsWith [("a/search/b", ["y"]), ("a", ["x"])]

/-- The same pages the other way round. -/
def outerFirst : Settings.AllSettings := settingsWith [("a", ["x"]), ("a/search/b", ["y"])]

theorem firstMatch?_redirectPath_innerFirst :
    Settings.ofEntries (entriesWith [("a/search/b", ["y"]), ("a", ["x"])]) = .ok innerFirst ∧
    innerFirst.pages.pages.slugFor ["y"] = "a/search/b" ∧
    firstMatch? (innerFirst.pages.pages.routingRules "search" true)
        ((innerFirst.pages.pages.redirectPath "search" true "q" ["y"]).toList.drop 1) =
      some (queryRule "search" ("a/search/b", ["y"]), ["q"]) := by
  have haccepted : Settings.ofEntries (entriesWith [("a/search/b", ["y"]), ("a", ["x"])]) = .ok innerFirst := rfl
  obtain ⟨before, page, after, hslugs, hpage, harrives⟩ :=
    firstMatch?_redirectPath_iff haccepted true true "q"
      (show innerFirst.pages.pages.slugFor ["y"] ≠ "" by decide)
  have hpages : [("a/search/b", ["y"]), ("a", ["x"])] = before ++ page :: after := hslugs
  refine ⟨haccepted, by decide, ?_⟩
  cases before with
  | nil =>
    obtain ⟨rfl, -⟩ := List.cons.inj hpages
    have hintended : intended "search" ("a/search/b", ["y"]) true "q" =
        (queryRule "search" ("a/search/b", ["y"]), ["q"]) := by decide +kernel
    exact (harrives.mpr (by simp)).trans (congrArg some hintended)
  | cons p before =>
    have hlast : page = ("a", ["x"]) := by
      cases before with
      | nil => exact (List.cons.inj (List.cons.inj hpages).2).1.symm
      | cons q before => simp at hpages
    rw [hlast] at hpage
    exact absurd hpage (by decide)

/-- A query on a page whose path goes through that of a page in front of it is taken by the rule of this page, with a
part of the path as if it were a query. -/
theorem exists_intercepted_query :
    Settings.ofEntries (entriesWith [("a", ["x"]), ("a/search/b", ["y"])]) = .ok outerFirst ∧
    outerFirst.pages.pages.slugFor ["y"] = "a/search/b" ∧
    firstMatch? (outerFirst.pages.pages.routingRules "search" true)
        ((outerFirst.pages.pages.redirectPath "search" true "q" ["y"]).toList.drop 1) =
      some (queryRule "search" ("a", ["x"]), ["b/search/q"]) := by
  refine ⟨rfl, ?_⟩
  decide +kernel

end TermSearch.Route

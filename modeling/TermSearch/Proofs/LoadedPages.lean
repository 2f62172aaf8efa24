import TermSearch.Proofs.RedirectedQuery
import TermSearch.Proofs.RegisteredPages

/-! Search pages on their way from a configuration into the registry. Slugs lose the slashes around them twice, when
settings are read and when pages are registered. Registration joins the types of slugs that become one; reading keeps
the last of them. Main statement: the pages stand under the slugs of the configuration and in their order, but with all
of their types only where an entry that comes before another one of its slug lists none. -/
namespace TermSearch.Settings

open Document (Value)
open Route (Pages slugOrder typesUnder)
open Text (stripSlashes)

/-- The entries of the mapping under a key, if there is one. -/
def entriesUnder (key : String) (entries : Entries) : Entries :=
  match Value.get? key entries with
  | some (.mapping inner) => inner
  | _ => []

/-- The types that stand in a value: a list of texts, or a single one. -/
def writtenTypes : Value → List String
  | .text t => [t]
  | .list items => items.filterMap fun
    | .text t => some t
    | _ => none
  | _ => []

/-- The slugs in a mapping with their types. -/
def slugsIn (entries : Entries) : List (String × List String) :=
  entries.filterMap fun
    | (.text slug, types) => some (slug, writtenTypes types)
    | _ => none

/-- The slugs of a configuration with their types, as they are written. -/
def writtenSlugs (root : Entries) : List (String × List String) :=
  slugsIn (entriesUnder "slugs" (entriesUnder "pages" root))

/-- The pages of a configuration, registered as they are written. -/
def writtenPages (root : Entries) : Pages := .ofSlugs (writtenSlugs root)

section Reading

variable {key : String} {root entries : Entries}

theorem sectionOf_eq (h : sectionOf root key false = .ok entries) : entries = entriesUnder key root := by
  unfold sectionOf at h
  unfold entriesUnder
  split at h
  · rename_i hnone
    obtain rfl := Except.ok.inj h
    rw [hnone]
  · rename_i hnull
    obtain rfl := Except.ok.inj h
    rw [hnull]
  · rename_i hmapping
    rw [hmapping]
    exact (Except.ok.inj h).symm
  · cases h

theorem expectItems_eq {index : Nat} {items : List Value} {texts : List String}
    (h : expectItems key index items = .ok texts) : texts = writtenTypes (.list items) := by
  induction items generalizing index texts with
  | nil => exact (Except.ok.inj h).symm
  | cons v items ih =>
    cases v with
    | text t =>
      obtain ⟨rest, hrest, htexts⟩ := bind_eq_ok_iff.mp h
      obtain rfl := Except.ok.inj htexts
      rw [ih hrest]
      rfl
    | _ => cases h

theorem expectTexts_eq {v : Value} {texts : List String} (h : expectTexts key v = .ok texts) : texts = writtenTypes v := by
  cases v with
  | text t => exact (Except.ok.inj h).symm
  | list items => exact expectItems_eq h
  | _ => cases h

theorem expectTextEntries_eq {slugs : List (String × List String)} (h : expectTextEntries key entries = .ok slugs) :
    slugs = slugsIn entries := by
  induction entries generalizing slugs with
  | nil => exact (Except.ok.inj h).symm
  | cons p entries ih =>
    obtain ⟨name, v⟩ := p
    cases name with
    | text slug =>
      obtain ⟨types, htypes, h⟩ := bind_eq_ok_iff.mp h
      obtain ⟨rest, hrest, hslugs⟩ := bind_eq_ok_iff.mp h
      obtain rfl := Except.ok.inj hslugs
      rw [ih hrest, expectTexts_eq htypes]
      rfl
    | _ => cases h

theorem expectTextLists_eq {slugs : List (String × List String)}
    (h : expectTextLists key (optional entries "slugs" (.mapping [])) = .ok slugs) :
    slugs = slugsIn (entriesUnder "slugs" entries) := by
  unfold optional at h
  unfold entriesUnder
  cases hfound : Value.get? "slugs" entries with
  | none =>
    rw [hfound] at h
    exact expectTextEntries_eq (show expectTextEntries key [] = .ok slugs from h)
  | some v =>
    rw [hfound] at h
    cases v with
    | mapping inner => exact expectTextEntries_eq h
    | _ => cases h

/-- Of the entries of one slug the settings have the types of the last one. -/
theorem slugs_of_readPages {s : PageSettings} (h : readPages root = .ok s) :
    s.slugs = Assoc.ofPairs ((writtenSlugs root).map fun p => (stripSlashes p.1, p.2)) := by
  simp only [readPages, bind_eq_ok_iff] at h
  obtain ⟨entries, hentries, slugs, hslugs, _, -, _, -, _, -, hs⟩ := h
  rw [← Except.ok.inj hs, expectTextLists_eq hslugs, sectionOf_eq hentries]
  rfl

end Reading

section Collapse

variable {entries : List (String × List String)}

theorem find?_ofPairs (slug : String) (entries : List (String × List String)) :
    Assoc.find? slug (Assoc.ofPairs (entries.map fun p => (stripSlashes p.1, p.2))) =
      (typesUnder slug entries).getLast? := by
  rw [Assoc.find?_ofPairs, List.filter_map, List.getLast?_map, Option.map_map, typesUnder, List.getLast?_map]
  rfl

theorem ofPairs_eq (entries : List (String × List String)) :
    Assoc.ofPairs (entries.map fun p => (stripSlashes p.1, p.2)) =
      (slugOrder entries).map fun slug => (slug, (typesUnder slug entries).getLast?.getD []) := by
  have hkeys := Assoc.keys_ofPairs (entries.map fun p => (stripSlashes p.1, p.2))
  rw [List.map_map] at hkeys
  have hmap := Assoc.eq_map_keys (Assoc.nodup_keys_ofPairs (entries.map fun p => (stripSlashes p.1, p.2))) []
  simp only [find?_ofPairs] at hmap
  rw [hmap]
  exact congrArg _ hkeys

/-- The last of some lists has all of their items only where the lists in front of it have none. -/
theorem getLast?_getD_eq_flatten_iff {α : Type} {lists : List (List α)} :
    lists.getLast?.getD [] = lists.flatten ↔ lists.Pairwise fun first _ => first = [] := by
  induction lists with
  | nil => simp
  | cons first lists ih =>
    cases lists with
    | nil => simp
    | cons second lists =>
      have hlast : ((second :: lists).getLast?.getD []).length ≤ (second :: lists).flatten.length := by
        rw [List.getLast?_eq_some_getLast (List.cons_ne_nil second lists), Option.getD_some]
        exact (List.sublist_flatten_of_mem (List.getLast_mem _)).length_le
      rw [List.getLast?_cons_cons, List.pairwise_cons, ← ih, List.flatten_cons]
      constructor
      · intro h
        have hnone : first = [] := by
          rw [h, List.length_append] at hlast
          exact List.eq_nil_of_length_eq_zero (by omega)
        exact ⟨fun _ _ => hnone, by rw [h, hnone, List.nil_append]⟩
      · rintro ⟨hnone, h⟩
        rw [h, hnone second List.mem_cons_self, List.nil_append]

theorem pairwise_typesUnder_iff : (∀ slug ∈ slugOrder entries, (typesUnder slug entries).Pairwise fun types _ => types = []) ↔
    entries.Pairwise fun p q => stripSlashes p.1 = stripSlashes q.1 → p.2 = [] := by
  simp only [typesUnder, List.pairwise_map, List.pairwise_filter, beq_iff_eq]
  simp only [List.pairwise_iff_forall_sublist]
  constructor
  · intro h p q hpq hsame
    have hp : p ∈ entries := hpq.subset List.mem_cons_self
    exact h (stripSlashes p.1) (List.mem_eraseDups.mpr (List.mem_map_of_mem hp)) hpq rfl hsame.symm
  · rintro h slug - p q hpq rfl hq
    exact h hpq hq.symm

end Collapse

/-- The pages of accepted settings have the slugs of the configuration in order of first appearance, each with the
types of its last entry. Registered as they are written, the slugs stand in the same order, each with the types of all
of its entries. The two are the same pages exactly where no entry with types comes before another one of its slug. -/
theorem pages_eq_writtenPages_iff {root : Entries} {settings : AllSettings} (h : ofEntries root = .ok settings) :
    settings.pages.pages.slugs = ((slugOrder (writtenSlugs root)).map fun slug =>
      (slug, (typesUnder slug (writtenSlugs root)).getLast?.getD [])) ∧
    (writtenPages root).slugs = ((slugOrder (writtenSlugs root)).map fun slug =>
      (slug, (typesUnder slug (writtenSlugs root)).flatten)) ∧
    (settings.pages.pages = writtenPages root ↔
      (writtenSlugs root).Pairwise fun p q => stripSlashes p.1 = stripSlashes q.1 → p.2 = []) := by
  have hloaded : settings.pages.pages.slugs = ((slugOrder (writtenSlugs root)).map fun slug =>
      (slug, (typesUnder slug (writtenSlugs root)).getLast?.getD [])) := by
    rw [slugs_pages h, slugs_of_readPages (readPages_of_ofEntries h), ofPairs_eq]
  have hwritten : (writtenPages root).slugs = ((slugOrder (writtenSlugs root)).map fun slug =>
      (slug, (typesUnder slug (writtenSlugs root)).flatten)) := Pages.slugs_ofSlugs _
  refine ⟨hloaded, hwritten, ?_⟩
  rw [Pages.eq_iff, hloaded, hwritten, List.map_inj_left, ← pairwise_typesUnder_iff]
  refine forall₂_congr fun slug _ => ?_
  rw [Prod.mk.injEq, ← getLast?_getD_eq_flatten_iff]
  exact and_iff_right rfl

/-- A slug that is written twice, the first time without types. -/
def emptyFirst : List (String × List String) := [("/events/", []), ("news", ["post"]), ("events", ["event"])]

theorem pages_eq_writtenPages_iff_emptyFirst :
    ofEntries (Route.entriesWith emptyFirst) =
      .ok (Route.settingsWith [("events", ["event"]), ("news", ["post"])]) ∧
    (Route.settingsWith [("events", ["event"]), ("news", ["post"])]).pages.pages =
      writtenPages (Route.entriesWith emptyFirst) := by
  have haccepted : ofEntries (Route.entriesWith emptyFirst) =
      .ok (Route.settingsWith [("events", ["event"]), ("news", ["post"])]) := rfl
  have hwritten : writtenSlugs (Route.entriesWith emptyFirst) = emptyFirst := rfl
  refine ⟨haccepted, (pages_eq_writtenPages_iff haccepted).2.2.mpr ?_⟩
  rw [hwritten]
  decide

/-- Of a slug that is written with and without slashes around it, the pages have the types of the later entry only. -/
theorem exists_lost_types :
    ofEntries (Route.entriesWith [("events", ["event"]), ("/events/", ["meetup"])]) =
      .ok (Route.settingsWith [("events", ["meetup"])]) ∧
    (Route.settingsWith [("events", ["meetup"])]).pages.pages.slugs = [("events", ["meetup"])] ∧
    (writtenPages (Route.entriesWith [("events", ["event"]), ("/events/", ["meetup"])])).slugs =
      [("events", ["event", "meetup"])] :=
  ⟨rfl, by decide, by decide +kernel⟩

end TermSearch.Settings

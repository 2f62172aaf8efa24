import TermSearch.Proofs.RegisteredPages

/-! Looking up the page of some types after any number of registrations. The keys of the registry are the slugs without
the slashes around them, in order of first registration, each with the types of all its registrations in order. Main
statement: the page of some types is the one that was registered first among those that show one of them, whatever the
order of the types is. -/
namespace TermSearch.Route

open Text (stripSlashes)

namespace Pages

/-- The registry after some registrations, one after another. -/
def registered (registrations : List (String × PageTypes)) : Pages :=
  registrations.foldl (fun pages r => pages.register r.1 r.2) empty

/-- The types of all registrations of a key, one after another. -/
def typesOf (registrations : List (String × PageTypes)) (key : String) : List String :=
  (registrations.filter fun r => stripSlashes r.1 == key).flatMap fun r => r.2.toList

/-- A key has one of some types. -/
def Shows (registrations : List (String × PageTypes)) (wanted : List String) (key : String) : Prop :=
  ∃ type ∈ wanted, type ∈ typesOf registrations key

variable {registrations : List (String × PageTypes)} {wanted others : List String}

theorem registered_eq_ofSlugs (registrations : List (String × PageTypes)) :
    registered registrations = ofSlugs (registrations.map fun r => (r.1, r.2.toList)) := by
  rw [registered, ofSlugs, List.foldl_map]
  rfl

theorem typesUnder_map (registrations : List (String × PageTypes)) (key : String) :
    (typesUnder key (registrations.map fun r => (r.1, r.2.toList))).flatten = typesOf registrations key := by
  rw [typesUnder, List.filter_map, List.map_map, List.flatten_eq_flatMap, List.flatMap_map]
  rfl

/-- The registry holds the keys in order of first registration, with all of their types. -/
theorem slugs_registered (registrations : List (String × PageTypes)) :
    (registered registrations).slugs =
      ((registrations.map fun r => stripSlashes r.1).eraseDups).map fun key => (key, typesOf registrations key) := by
  have hkeys : slugOrder (registrations.map fun r => (r.1, r.2.toList)) =
      (registrations.map fun r => stripSlashes r.1).eraseDups := by
    rw [slugOrder, List.map_map]
    rfl
  rw [registered_eq_ofSlugs, slugs_ofSlugs, hkeys]
  exact List.map_congr_left fun key _ => by rw [typesUnder_map]

theorem keys_registered (registrations : List (String × PageTypes)) :
    Assoc.keys (registered registrations).slugs = (registrations.map fun r => stripSlashes r.1).eraseDups := by
  rw [slugs_registered, Assoc.keys, List.map_map]
  exact List.map_id _

theorem any_contains_iff {key : String} :
    (wanted.any (typesOf registrations key).contains) = true ↔ Shows registrations wanted key := by
  simp only [List.any_eq_true, List.contains_iff_mem, Shows]

theorem slugFor?_registered (registrations : List (String × PageTypes)) (wanted : List String) :
    (registered registrations).slugFor? wanted =
      (Assoc.keys (registered registrations).slugs).find? fun key =>
        wanted.any (typesOf registrations key).contains := by
  rw [slugFor?, keys_registered, slugs_registered, List.find?_map, Option.map_map]
  exact congrFun Option.map_id _

/-- The key that is found is the first one that has one of the types. -/
theorem slugFor?_eq_some_iff {key : String} : (registered registrations).slugFor? wanted = some key ↔
    Shows registrations wanted key ∧ ∃ before after,
      Assoc.keys (registered registrations).slugs = before ++ key :: after ∧
        ∀ earlier ∈ before, ¬ Shows registrations wanted earlier := by
  rw [slugFor?_registered, List.find?_eq_some_iff_append, any_contains_iff]
  simp only [Bool.not_eq_true', ← Bool.not_eq_true, any_contains_iff]

theorem slugFor?_eq_none_iff : (registered registrations).slugFor? wanted = none ↔
    ∀ key ∈ Assoc.keys (registered registrations).slugs, ¬ Shows registrations wanted key := by
  rw [slugFor?_registered, List.find?_eq_none]
  simp only [any_contains_iff]

theorem slugFor?_congr (pages : Pages) (h : ∀ type, type ∈ wanted ↔ type ∈ others) :
    pages.slugFor? wanted = pages.slugFor? others := by
  have hany (types : List String) : wanted.any types.contains = others.any types.contains := by
    rw [Bool.eq_iff_iff, List.any_eq_true, List.any_eq_true]
    simp only [h]
  rw [slugFor?, slugFor?]
  simp only [hany]

example : (registered [("/events/", .one "event"), ("news", .one "post"), ("events", .several ["meetup"])]).slugFor
    ["post", "meetup"] = "events" := by decide +kernel

end Pages

end TermSearch.Route

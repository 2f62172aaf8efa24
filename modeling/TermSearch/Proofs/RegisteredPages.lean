import Mathlib.Data.List.Induction
import TermSearch.Route.Pages

/-! What a registry of search pages holds. Slugs that differ in slashes around them only are one slug. Each stands at
the place where it came first, with the types of all entries that registered it, in the order of the entries. -/
namespace TermSearch

namespace Assoc

variable {κ α β : Type} [BEq κ] [LawfulBEq κ]

theorem eraseDups_append_singleton (xs : List κ) (x : κ) :
    (xs ++ [x]).eraseDups = if xs.contains x then xs.eraseDups else xs.eraseDups ++ [x] := by
  rw [List.eraseDups_append]
  by_cases h : x ∈ xs
  · simp [List.removeAll, h]
  · simp [List.removeAll, h, List.eraseDups_cons]

/-- Whatever the values are, the keys are those that were inserted, in order of first insertion. -/
theorem keys_foldl_insert (key : β → κ) (value : List (κ × α) → β → α) (xs : List β) :
    keys (xs.foldl (fun m x => insert (key x) (value m x) m) []) = (xs.map key).eraseDups := by
  induction xs using List.reverseRecOn with
  | nil => rfl
  | append_singleton xs x ih =>
    have hhas : has (key x) (xs.foldl (fun m x => insert (key x) (value m x) m) []) = (xs.map key).contains (key x) := by
      rw [Bool.eq_iff_iff, has_eq_true_iff, ih, List.mem_eraseDups, List.contains_iff_mem]
    rw [List.foldl_append, List.foldl_cons, List.foldl_nil, keys_insert, hhas, ih, List.map_append, List.map_singleton,
      eraseDups_append_singleton]

/-- A dictionary has under each of its keys what is found there. -/
theorem eq_map_keys {m : List (κ × α)} (h : (keys m).Nodup) (default : α) :
    m = (keys m).map fun key => (key, (find? key m).getD default) := by
  induction m with
  | nil => rfl
  | cons p m ih =>
    obtain ⟨hnew, hrest⟩ := List.nodup_cons.mp h
    have hfirst : find? p.1 (p :: m) = some p.2 := by simp [find?_cons]
    have hlater : ∀ key ∈ keys m, find? key (p :: m) = find? key m := by
      intro key hkey
      have hne : p.1 ≠ key := by
        rintro rfl
        exact hnew hkey
      rw [find?_cons, beq_false_of_ne hne]
      rfl
    rw [keys, List.map_cons, List.map_cons, hfirst]
    refine congrArg (p :: ·) ((ih hrest).trans (List.map_congr_left fun key hkey => ?_))
    rw [hlater key hkey]

/-- A dictionary of pairs has under a key the value of the last pair with that key. -/
theorem find?_ofPairs (key : κ) (pairs : List (κ × α)) :
    find? key (ofPairs pairs) = (pairs.filter fun p => p.1 == key).getLast?.map Prod.snd := by
  induction pairs using List.reverseRecOn with
  | nil => rfl
  | append_singleton pairs p ih =>
    rw [ofPairs, List.foldl_append, ← ofPairs, List.foldl_cons, List.foldl_nil, find?_insert, ih, List.filter_append,
      List.filter_cons, List.filter_nil]
    cases p.1 == key <;> simp

/-- A dictionary of pairs has their keys, in order of first appearance. -/
theorem keys_ofPairs (pairs : List (κ × α)) : keys (ofPairs pairs) = (pairs.map Prod.fst).eraseDups :=
  keys_foldl_insert Prod.fst (fun _ p => p.2) pairs

end Assoc

namespace Route

open Text (stripSlashes)

/-- The slugs of some entries without the slashes around them, in order of first appearance. -/
def slugOrder (entries : List (String × List String)) : List String :=
  (entries.map fun p => stripSlashes p.1).eraseDups

/-- What the entries of a slug list, one after another. -/
def typesUnder (slug : String) (entries : List (String × List String)) : List (List String) :=
  (entries.filter fun p => stripSlashes p.1 == slug).map Prod.snd

theorem typesUnder_append_singleton (slug : String) (entries : List (String × List String))
    (p : String × List String) :
    typesUnder slug (entries ++ [p]) =
      typesUnder slug entries ++ if stripSlashes p.1 == slug then [p.2] else [] := by
  rw [typesUnder, List.filter_append, List.map_append, List.filter_cons]
  split <;> rfl

namespace Pages

theorem eq_iff {pages others : Pages} : pages = others ↔ pages.slugs = others.slugs := by
  cases pages
  cases others
  rw [mk.injEq]

theorem ofSlugs_append_singleton (entries : List (String × List String)) (p : String × List String) :
    ofSlugs (entries ++ [p]) = (ofSlugs entries).add p.1 p.2 := by
  rw [ofSlugs, List.foldl_append]
  rfl

theorem nodup_keys_ofSlugs (entries : List (String × List String)) :
    (Assoc.keys (ofSlugs entries).slugs).Nodup := by
  induction entries using List.reverseRecOn with
  | nil => exact List.nodup_nil
  | append_singleton entries p ih =>
    rw [ofSlugs_append_singleton]
    exact Assoc.nodup_keys_insert ih _ _

/-- The dictionary of a registry, entry by entry. -/
theorem slugs_foldl_add_eq (registered entries : List (String × List String)) :
    (entries.foldl (fun pages p => pages.add p.1 p.2) (⟨registered⟩ : Pages)).slugs =
      entries.foldl (fun m p => Assoc.insert (stripSlashes p.1) ((Assoc.find? (stripSlashes p.1) m).getD [] ++ p.2) m)
        registered := by
  induction entries generalizing registered with
  | nil => rfl
  | cons p entries ih => exact ih _

theorem keys_ofSlugs (entries : List (String × List String)) :
    Assoc.keys (ofSlugs entries).slugs = slugOrder entries := by
  rw [ofSlugs, empty, slugs_foldl_add_eq, slugOrder]
  have hkeys := Assoc.keys_foldl_insert (fun p : String × List String => stripSlashes p.1)
    (fun (m : List (String × List String)) p => (Assoc.find? (stripSlashes p.1) m).getD [] ++ p.2) entries
  exact hkeys

/-- A slug has the types of all entries that registered it. -/
theorem find?_ofSlugs (slug : String) (entries : List (String × List String)) :
    (Assoc.find? slug (ofSlugs entries).slugs).getD [] = (typesUnder slug entries).flatten := by
  induction entries using List.reverseRecOn with
  | nil => rfl
  | append_singleton entries p ih =>
    rw [ofSlugs_append_singleton, typesUnder_append_singleton, List.flatten_append, ← ih, add, Assoc.update,
      Assoc.find?_insert]
    cases h : stripSlashes p.1 == slug with
    | true =>
      obtain rfl := beq_iff_eq.mp h
      simp
    | false => simp

theorem slugs_ofSlugs (entries : List (String × List String)) :
    (ofSlugs entries).slugs = (slugOrder entries).map fun slug => (slug, (typesUnder slug entries).flatten) := by
  have hmap := Assoc.eq_map_keys (nodup_keys_ofSlugs entries) []
  simpa only [keys_ofSlugs, find?_ofSlugs] using hmap

end Pages

end Route

end TermSearch

import TermSearch.Settings.Document
import TermSearch.Settings.Layering

/-! Layers of a configuration, path by path. A value of the upper layer that is not a mapping counts as it
stands, and nothing is left below it; what the upper layer does not mention is taken from the lower one.
Main statement: merging says this of every path, keeps the order of keys, and does nothing when repeated. -/
namespace TermSearch

open Assoc (findBy? keys)

namespace Document.Value

/-- What a value stands for as a key: its amount, or itself if it has none. -/
def keyForm? (v : Value) : Option Value :=
  match v.toInt? with
  | some n => some (int n)
  | none => if v.mayBeKey then some v else none

theorem isSome_keyForm? (v : Value) : v.keyForm?.isSome = v.mayBeKey := by
  unfold keyForm?
  cases h : v.toInt? with
  | some n => cases v <;> simp_all [toInt?, mayBeKey]
  | none => cases hv : v.mayBeKey <;> simp

/-- Two values are one key if they stand for the same. -/
theorem sameKey_iff (a b : Value) : sameKey a b = true ↔ a.keyForm?.isSome ∧ a.keyForm? = b.keyForm? := by
  unfold sameKey keyForm?
  cases ha : a.toInt? with
  | some m =>
    cases hb : b.toInt? with
    | some n => simp
    | none => cases b <;> simp_all [toInt?, mayBeKey]
  | none =>
    cases hb : b.toInt? with
    | some n => cases a <;> simp_all [toInt?, mayBeKey]
    | none =>
      -- neither is an amount: only values of one kind can be alike
      cases a <;> cases b <;> simp_all [toInt?, mayBeKey]

theorem sameKey_self {v : Value} (h : v.mayBeKey = true) : sameKey v v = true :=
  (sameKey_iff v v).mpr ⟨(isSome_keyForm? v).trans h, rfl⟩

theorem sameKey_comm (a b : Value) : sameKey a b = sameKey b a := by
  rw [Bool.eq_iff_iff, sameKey_iff, sameKey_iff]
  constructor
  · rintro ⟨hsome, heq⟩
    exact ⟨heq ▸ hsome, heq.symm⟩
  · rintro ⟨hsome, heq⟩
    exact ⟨heq ▸ hsome, heq.symm⟩

theorem sameKey_congr {a b : Value} (h : sameKey a b = true) (c : Value) : sameKey a c = sameKey b c := by
  rw [Bool.eq_iff_iff, sameKey_iff, sameKey_iff, ((sameKey_iff a b).mp h).2]

theorem findBy?_congr {a b : Value} (h : sameKey a b = true) (entries : List (Value × Value)) :
    findBy? sameKey a entries = findBy? sameKey b entries := by
  induction entries with
  | nil => rfl
  | cons entry entries ih =>
    rw [findBy?, findBy?, ih, sameKey_comm entry.1 a, sameKey_comm entry.1 b, sameKey_congr h]

theorem put_cons (key value stored old : Value) (entries : List (Value × Value)) :
    put key value ((stored, old) :: entries) =
      if sameKey stored key then (stored, value) :: entries else (stored, old) :: put key value entries := rfl

theorem findBy?_put (key other value : Value) (entries : List (Value × Value)) :
    findBy? sameKey other (put key value entries) =
      if sameKey key other then some value else findBy? sameKey other entries := by
  induction entries with
  | nil => rfl
  | cons entry entries ih =>
    obtain ⟨stored, old⟩ := entry
    rw [put_cons]
    by_cases hkey : sameKey stored key
    · rw [if_pos hkey, findBy?, findBy?, sameKey_congr hkey]
      split <;> rfl
    · rw [if_neg hkey, findBy?, findBy?, ih]
      by_cases hother : sameKey stored other
      · have hdiff : ¬ sameKey key other := by
          intro h
          rw [sameKey_congr hother, sameKey_comm] at hkey
          exact hkey h
        rw [if_pos hother, if_neg hdiff, if_pos hother]
      · rw [if_neg hother, if_neg hother]

theorem keys_put (key value : Value) (entries : List (Value × Value)) : keys (put key value entries) =
    if (findBy? sameKey key entries).isSome then keys entries else keys entries ++ [key] := by
  induction entries with
  | nil => rfl
  | cons entry entries ih =>
    obtain ⟨stored, old⟩ := entry
    rw [put_cons, findBy?]
    by_cases hkey : sameKey stored key
    · rw [if_pos hkey, if_pos hkey, Option.isSome_some, if_pos rfl]
      rfl
    · rw [if_neg hkey, if_neg hkey, keys, List.map_cons, ← keys, ih]
      split <;> rfl

/-- A value under a new key comes last. -/
theorem put_of_findBy?_eq_none {key : Value} {entries : List (Value × Value)}
    (h : findBy? sameKey key entries = none) (value : Value) :
    put key value entries = entries ++ [(key, value)] := by
  induction entries with
  | nil => rfl
  | cons entry entries ih =>
    obtain ⟨stored, old⟩ := entry
    rw [findBy?] at h
    split at h
    · cases h
    · next hkey => rw [put_cons, if_neg hkey, ih h, List.cons_append]

/-- Putting a value where it is already changes nothing. -/
theorem put_of_findBy?_eq_some {key value : Value} {entries : List (Value × Value)}
    (h : findBy? sameKey key entries = some value) : put key value entries = entries := by
  induction entries with
  | nil => cases h
  | cons entry entries ih =>
    obtain ⟨stored, old⟩ := entry
    rw [put_cons]
    rw [findBy?] at h
    by_cases hkey : sameKey stored key
    · rw [if_pos hkey] at h ⊢
      rw [Option.some.inj h]
    · rw [if_neg hkey] at h ⊢
      rw [ih h]

theorem exists_of_kind_eq_mapping {v : Value} (h : v.kind = .mapping) : ∃ entries, v = mapping entries := by
  cases v with
  | mapping entries => exact ⟨entries, rfl⟩
  | _ => cases h

/-- The value that a path of keys leads to, through mappings. -/
def at? : Value → List Value → Option Value
  | v, [] => some v
  | mapping entries, key :: path => (findBy? sameKey key entries).bind (at? · path)
  | _, _ :: _ => none

/-- A path goes on below a value that is not a mapping. -/
def IsCutOff (v : Value) (path : List Value) : Prop :=
  ∃ front key rest value, path = front ++ key :: rest ∧ v.at? front = some value ∧ value.kind ≠ .mapping

theorem at?_append (v : Value) (front rest : List Value) :
    v.at? (front ++ rest) = (v.at? front).bind (at? · rest) := by
  induction front generalizing v with
  | nil => rfl
  | cons key front ih =>
    cases v with
    | mapping entries =>
      rw [List.cons_append, at?, at?, Option.bind_assoc]
      exact congrArg _ (funext ih)
    | _ => rfl

theorem at?_cons_of_kind_ne {v : Value} (h : v.kind ≠ .mapping) (key : Value) (rest : List Value) :
    v.at? (key :: rest) = none := by
  cases v with
  | mapping entries => exact absurd rfl h
  | _ => rfl

/-- A path leads somewhere if its first key leads into a mapping and the rest leads there from what is found. -/
theorem at?_cons_eq_some_iff {v : Value} {key : Value} {path : List Value} {found : Value} :
    v.at? (key :: path) = some found ↔
      ∃ entries next, v = mapping entries ∧ findBy? sameKey key entries = some next ∧ next.at? path = some found := by
  cases v with
  | mapping entries =>
    rw [at?, Option.bind_eq_some_iff]
    constructor
    · rintro ⟨next, hnext, hfound⟩
      exact ⟨entries, next, rfl, hnext, hfound⟩
    · rintro ⟨_, next, ⟨⟩, hnext, hfound⟩
      exact ⟨next, hnext, hfound⟩
  | _ => simp [at?]

/-- Below a mapping, a path is cut off by what stands under its first key. -/
theorem isCutOff_mapping_cons {entries : List (Value × Value)} {key : Value} {path : List Value} :
    (mapping entries).IsCutOff (key :: path) ↔
      ∃ next, findBy? sameKey key entries = some next ∧ next.IsCutOff path := by
  constructor
  · rintro ⟨_ | ⟨first, front⟩, other, rest, value, hpath, hvalue, hkind⟩
    · exact absurd (congrArg kind (Option.some.inj hvalue)) (Ne.symm hkind)
    · obtain ⟨rfl, rfl⟩ := List.cons.inj hpath
      obtain ⟨_, next, ⟨⟩, hnext, hvalue⟩ := at?_cons_eq_some_iff.mp hvalue
      exact ⟨next, hnext, front, other, rest, value, rfl, hvalue, hkind⟩
  · rintro ⟨next, hnext, front, other, rest, value, rfl, hvalue, hkind⟩
    exact ⟨key :: front, other, rest, value, rfl, at?_cons_eq_some_iff.mpr ⟨entries, next, rfl, hnext, hvalue⟩, hkind⟩

end Document.Value

namespace Settings

open Document (Value)
open Document.Value (sameKey sameKey_self findBy?_congr findBy?_put keys_put put_of_findBy?_eq_none
  put_of_findBy?_eq_some)

/-- Entries of a mapping: their keys may be keys and are all different, and so it is in every mapping that
stands under one of them. -/
inductive IsDictionary : Entries → Prop
  | nil : IsDictionary []
  | cons {key value : Value} {rest : Entries} (isKey : key.mayBeKey = true)
      (isNew : ∀ entry ∈ rest, sameKey key entry.1 = false)
      (under : ∀ entries, value = .mapping entries → IsDictionary entries) (tail : IsDictionary rest) :
      IsDictionary ((key, value) :: rest)

/-- A value that is a dictionary if it is a mapping. -/
def WellKeyed (value : Value) : Prop := ∀ entries, value = .mapping entries → IsDictionary entries

/-- The entries that a value adds to: those of a mapping, otherwise none. -/
def entriesIn : Option Value → Entries
  | some (.mapping entries) => entries
  | _ => []

theorem bind_at?_cons (base : Option Value) (key : Value) (path : List Value) :
    base.bind (Value.at? · (key :: path)) =
      (findBy? sameKey key (entriesIn base)).bind (Value.at? · path) := by
  cases base with
  | none => rfl
  | some v => cases v <;> rfl

namespace IsDictionary

/-- A key of a dictionary leads to the value that stands there. -/
theorem findBy?_of_mem {entries : Entries} (h : IsDictionary entries) {entry : Value × Value}
    (hentry : entry ∈ entries) : findBy? sameKey entry.1 entries = some entry.2 := by
  induction h with
  | nil => cases hentry
  | cons isKey isNew under tail _ ih =>
    rw [findBy?]
    rcases List.mem_cons.mp hentry with rfl | hrest
    · rw [if_pos (sameKey_self isKey)]
    · rw [isNew entry hrest, if_neg Bool.false_ne_true, ih hrest]

theorem wellKeyed {entries : Entries} (h : IsDictionary entries) : WellKeyed (.mapping entries) :=
  fun _ heq => Value.mapping.inj heq ▸ h

theorem wellKeyed_of_findBy? {entries : Entries} (h : IsDictionary entries) {key next : Value}
    (hfind : findBy? sameKey key entries = some next) : WellKeyed next := by
  induction h with
  | nil => cases hfind
  | cons isKey isNew under tail _ ih =>
    rw [findBy?] at hfind
    split at hfind
    · exact Option.some.inj hfind ▸ under
    · exact ih hfind

end IsDictionary

theorem WellKeyed.of_at? {value found : Value} {path : List Value} (h : WellKeyed value)
    (hfound : value.at? path = some found) : WellKeyed found := by
  induction path generalizing value with
  | nil => exact Option.some.inj hfound ▸ h
  | cons key path ih =>
    obtain ⟨entries, next, rfl, hnext, hfound⟩ := Value.at?_cons_eq_some_iff.mp hfound
    exact ih ((h entries rfl).wellKeyed_of_findBy? hnext) hfound

/-- A key whose like is not among the entries is not found in them. -/
theorem findBy?_eq_none {key : Value} {entries : Entries}
    (h : ∀ entry ∈ entries, sameKey entry.1 key = false) : findBy? sameKey key entries = none := by
  induction entries with
  | nil => rfl
  | cons entry entries ih =>
    rw [findBy?, h entry List.mem_cons_self, if_neg Bool.false_ne_true]
    exact ih fun e he => h e (List.mem_cons_of_mem entry he)

theorem mergeValue_of_kind_ne (base : Option Value) {value : Value} (h : value.kind ≠ .mapping) :
    mergeValue base value = value := by
  rw [mergeValue]
  rintro entries rfl
  exact h rfl

/-- What a merge has under a key: the upper layer's value over the lower one's. -/
theorem findBy?_merge {upper : Entries} (h : IsDictionary upper) (base : Entries) (key : Value) :
    findBy? sameKey key (merge base upper) =
      match findBy? sameKey key upper with
      | some value => some (mergeValue (findBy? sameKey key base) value)
      | none => findBy? sameKey key base := by
  induction h generalizing base with
  | nil => rw [merge]; rfl
  | @cons first value rest isKey isNew under tail _ ih =>
    rw [merge, ih, findBy?, findBy?_put]
    by_cases hkey : sameKey first key
    · have hrest : findBy? sameKey key rest = none := by
        rw [← findBy?_congr hkey]
        exact findBy?_eq_none fun entry hentry => Value.sameKey_comm .. ▸ isNew entry hentry
      rw [hrest, if_pos hkey, if_pos hkey, findBy?_congr hkey]
    · rw [if_neg hkey, if_neg hkey]

/-- The keys of a merge are those of the lower layer, then those that only the upper one has. -/
theorem keys_merge {upper : Entries} (h : IsDictionary upper) (base : Entries) :
    keys (merge base upper) =
      keys base ++ (keys upper).filter fun key => (findBy? sameKey key base).isNone := by
  induction h generalizing base with
  | nil => rw [merge]; exact (List.append_nil _).symm
  | @cons first value rest isKey isNew under tail _ ih =>
    -- the first key does not change which keys of the rest are new
    have hrest : ∀ key ∈ keys rest, findBy? sameKey key
        (Value.put first (mergeValue (findBy? sameKey first base) value) base) = findBy? sameKey key base := by
      intro key hkey
      obtain ⟨entry, hentry, rfl⟩ := List.mem_map.mp hkey
      rw [findBy?_put, isNew entry hentry, if_neg Bool.false_ne_true]
    rw [merge, ih, keys_put, List.filter_congr fun key hkey => congrArg Option.isNone (hrest key hkey)]
    rw [keys, keys, keys, List.map_cons, List.filter_cons]
    cases findBy? sameKey first base with
    | some _ => rfl
    | none => exact List.append_assoc ..

/-- A dictionary whose keys are all new follows the lower layer as it stands. -/
theorem merge_of_new {upper : Entries} (h : IsDictionary upper) (base : Entries)
    (hnew : ∀ entry ∈ upper, findBy? sameKey entry.1 base = none) : merge base upper = base ++ upper := by
  induction h generalizing base with
  | nil => rw [merge, List.append_nil]
  | @cons first value rest isKey isNew under tail _ ih =>
    have hfirst : findBy? sameKey first base = none := hnew (first, value) List.mem_cons_self
    have hvalue : mergeValue none value = value := by cases value <;> rw [mergeValue] <;> simp
    rw [merge, hfirst, hvalue, put_of_findBy?_eq_none hfirst, ih, List.append_assoc]
    · rfl
    · intro entry hentry
      rw [← put_of_findBy?_eq_none hfirst, findBy?_put, isNew entry hentry, if_neg Bool.false_ne_true]
      exact hnew entry (List.mem_cons_of_mem _ hentry)

/-- A mapping is merged into the entries that stand in its place, if there are any. -/
theorem mergeValue_mapping {upper : Entries} (h : IsDictionary upper) (base : Option Value) :
    mergeValue base (.mapping upper) = .mapping (merge (entriesIn base) upper) := by
  have hall : merge [] upper = upper := merge_of_new h [] fun _ _ => rfl
  cases base with
  | none => rw [mergeValue, entriesIn, hall] <;> simp
  | some v => cases v <;> rw [mergeValue, entriesIn] <;> simp [hall]

/-- Entries that already hold what merging would put there stay as they are. -/
theorem merge_of_holds {base upper : Entries} (h : ∀ entry ∈ upper, ∃ value,
    findBy? sameKey entry.1 base = some value ∧ mergeValue (some value) entry.2 = value) :
    merge base upper = base := by
  induction upper with
  | nil => rw [merge]
  | cons entry upper ih =>
    obtain ⟨value, hfind, hmerge⟩ := h entry List.mem_cons_self
    rw [merge, hfind, hmerge, put_of_findBy?_eq_some hfind]
    exact ih fun e he => h e (List.mem_cons_of_mem entry he)

theorem merge_merge_of_values {upper : Entries} (h : IsDictionary upper)
    (hvalues : ∀ entry ∈ upper, ∀ base, mergeValue (some (mergeValue base entry.2)) entry.2 = mergeValue base entry.2)
    (base : Entries) : merge (merge base upper) upper = merge base upper := by
  refine merge_of_holds fun entry hentry => ⟨mergeValue (findBy? sameKey entry.1 base) entry.2, ?_,
    hvalues entry hentry _⟩
  rw [findBy?_merge h, h.findBy?_of_mem hentry]

/-- A value that is put over what it was put over already changes nothing. -/
theorem mergeValue_mergeValue {upper : Entries} (h : IsDictionary upper) :
    ∀ entry ∈ upper, ∀ base, mergeValue (some (mergeValue base entry.2)) entry.2 = mergeValue base entry.2 := by
  -- the induction follows the nesting: the values under a key are merged by this statement one level deeper
  induction h with
  | nil => exact fun _ hentry => nomatch hentry
  | @cons key value rest isKey isNew under tail ih_under ih =>
    intro entry hentry base
    rcases List.mem_cons.mp hentry with rfl | hrest
    · change mergeValue (some (mergeValue base value)) value = mergeValue base value
      by_cases hkind : value.kind = .mapping
      · obtain ⟨entries, rfl⟩ := Value.exists_of_kind_eq_mapping hkind
        have hdict : IsDictionary entries := under entries rfl
        rw [mergeValue_mapping hdict, mergeValue_mapping hdict, entriesIn,
          merge_merge_of_values hdict (ih_under entries rfl)]
      · rw [mergeValue_of_kind_ne _ hkind, mergeValue_of_kind_ne base hkind]
    · exact ih entry hrest base

/-- Merging the same upper layer again changes nothing. -/
theorem merge_merge {upper : Entries} (h : IsDictionary upper) (base : Entries) :
    merge (merge base upper) upper = merge base upper :=
  merge_merge_of_values h (mergeValue_mergeValue h) base

/-- Where the upper value has something at a path, a merge has it over what the lower value has there. -/
theorem at?_mergeValue_of_eq_some {value found : Value} {path : List Value}
    (h : WellKeyed value) (hfound : value.at? path = some found) (base : Option Value) :
    (mergeValue base value).at? path = some (mergeValue (base.bind (Value.at? · path)) found) := by
  induction path generalizing value base with
  | nil =>
    obtain rfl : value = found := Option.some.inj hfound
    have hbase : (base.bind fun v => v.at? []) = base := Option.bind_fun_some base
    rw [hbase, Value.at?]
  | cons key path ih =>
    obtain ⟨upper, next, rfl, hnext, hfound⟩ := Value.at?_cons_eq_some_iff.mp hfound
    have hdict : IsDictionary upper := h upper rfl
    rw [mergeValue_mapping hdict, Value.at?, findBy?_merge hdict, hnext, bind_at?_cons]
    exact ih (hdict.wellKeyed_of_findBy? hnext) hfound _

/-- What the upper value does not have at a path that goes on in it, a merge has from the lower value. -/
theorem at?_mergeValue_of_eq_none {value : Value} {path : List Value}
    (h : WellKeyed value) (hfound : value.at? path = none) (hopen : ¬ value.IsCutOff path) (base : Option Value) :
    (mergeValue base value).at? path = base.bind (Value.at? · path) := by
  induction path generalizing value base with
  | nil => cases hfound
  | cons key path ih =>
    by_cases hkind : value.kind = .mapping
    · obtain ⟨upper, rfl⟩ := Value.exists_of_kind_eq_mapping hkind
      have hdict : IsDictionary upper := h upper rfl
      rw [mergeValue_mapping hdict, Value.at?, findBy?_merge hdict, bind_at?_cons]
      cases hnext : findBy? sameKey key upper with
      | none => rfl
      | some next =>
        rw [Value.at?, hnext] at hfound
        exact ih (hdict.wellKeyed_of_findBy? hnext) hfound
          (fun hcut => hopen (Value.isCutOff_mapping_cons.mpr ⟨next, hnext, hcut⟩)) _
    · exact absurd ⟨[], key, path, value, rfl, rfl, hkind⟩ hopen

section Layers

variable {upper : Entries}

theorem at?_merge_of_eq_some (h : IsDictionary upper) (base : Entries) {path : List Value} {value : Value}
    (hvalue : (Value.mapping upper).at? path = some value) : (Value.mapping (merge base upper)).at? path =
      some (mergeValue ((Value.mapping base).at? path) value) := by
  have hfound := at?_mergeValue_of_eq_some h.wellKeyed hvalue (some (.mapping base))
  rwa [mergeValue_mapping h] at hfound

theorem at?_merge_of_eq_none (h : IsDictionary upper) (base : Entries) {path : List Value}
    (hvalue : (Value.mapping upper).at? path = none) (hopen : ¬ (Value.mapping upper).IsCutOff path) :
    (Value.mapping (merge base upper)).at? path = (Value.mapping base).at? path := by
  have hfound := at?_mergeValue_of_eq_none h.wellKeyed hvalue hopen (some (.mapping base))
  rwa [mergeValue_mapping h] at hfound

/-- A merge has the upper layer's values that are not mappings, nothing below them, and the lower layer's values
wherever the upper layer says nothing. Mappings of both layers keep the lower one's keys in order in front of the
new ones, and merging the upper layer once more changes nothing. -/
theorem merge_at_every_path (h : IsDictionary upper) (base : Entries) :
    (∀ path value, (Value.mapping upper).at? path = some value → value.kind ≠ .mapping →
      (Value.mapping (merge base upper)).at? path = some value) ∧
    (∀ path, (Value.mapping upper).at? path = none → ¬ (Value.mapping upper).IsCutOff path →
      (Value.mapping (merge base upper)).at? path = (Value.mapping base).at? path) ∧
    (∀ path, (Value.mapping upper).IsCutOff path → (Value.mapping (merge base upper)).at? path = none) ∧
    (∀ path lower above, (Value.mapping base).at? path = some (.mapping lower) →
      (Value.mapping upper).at? path = some (.mapping above) →
      ∃ merged, (Value.mapping (merge base upper)).at? path = some (.mapping merged) ∧
        keys merged = keys lower ++ (keys above).filter fun key => (findBy? sameKey key lower).isNone) ∧
    merge (merge base upper) upper = merge base upper := by
  have hscalar : ∀ path value, (Value.mapping upper).at? path = some value → value.kind ≠ .mapping →
      (Value.mapping (merge base upper)).at? path = some value := by
    intro path value hvalue hkind
    rw [at?_merge_of_eq_some h base hvalue, mergeValue_of_kind_ne _ hkind]
  refine ⟨hscalar, fun path => at?_merge_of_eq_none h base, ?_, ?_, merge_merge h base⟩
  · rintro path ⟨front, key, rest, value, rfl, hvalue, hkind⟩
    rw [Value.at?_append, hscalar front value hvalue hkind, Option.bind_some,
      Value.at?_cons_of_kind_ne hkind]
  · intro path lower above hlower habove
    have hdict : IsDictionary above := h.wellKeyed.of_at? habove above rfl
    refine ⟨merge lower above, ?_, keys_merge hdict lower⟩
    rw [at?_merge_of_eq_some h base habove, hlower, mergeValue_mapping hdict, entriesIn]

end Layers

/-- A layer that names pages, switches a whole section off and bounds one value in a way of its own. -/
def narrowEntries : Entries := [
  (.text "pages", mappingOf [("slugs", mappingOf [("docs", .list [.text "page"])])]),
  (.text "log", .null),
  (.text "search", mappingOf [("limits", mappingOf [("most", .int 5)]), ("exact", .bool true)])]

theorem isDictionary_narrowEntries : IsDictionary narrowEntries := by
  have hslugs : IsDictionary [(.text "docs", .list [.text "page"])] :=
    .cons rfl (by decide) nofun .nil
  have hpages : IsDictionary [(.text "slugs", mappingOf [("docs", .list [.text "page"])])] :=
    .cons rfl (by decide) hslugs.wellKeyed .nil
  have hlimits : IsDictionary [(.text "most", .int 5)] := .cons rfl (by decide) nofun .nil
  have hsearch : IsDictionary
      [(.text "limits", mappingOf [("most", .int 5)]), (.text "exact", .bool true)] :=
    .cons rfl (by decide) hlimits.wellKeyed (.cons rfl (by decide) nofun .nil)
  exact .cons rfl (by decide) hpages.wellKeyed
    (.cons rfl (by decide) nofun
      (.cons rfl (by decide) hsearch.wellKeyed .nil))

theorem merge_at_every_path_narrow : IsDictionary narrowEntries ∧
    (Value.mapping (merge defaultEntries narrowEntries)).at? [.text "search", .text "exact"] = some (.bool true) ∧
    (Value.mapping (merge defaultEntries narrowEntries)).at? [.text "search", .text "max_results"] =
      some (.int 20) ∧
    (Value.mapping (merge defaultEntries narrowEntries)).at? [.text "log", .text "level"] = none ∧
    (∃ merged, (Value.mapping (merge defaultEntries narrowEntries)).at? [.text "search"] = some (.mapping merged) ∧
      keys merged = [.text "expand", .text "exact", .text "exclusion_prefix", .text "target_meta",
        .text "meta_keys", .text "target_types", .text "include_protected", .text "blank_query",
        .text "max_results", .text "limits"]) ∧
    merge (merge defaultEntries narrowEntries) narrowEntries = merge defaultEntries narrowEntries := by
  have h := merge_at_every_path isDictionary_narrowEntries defaultEntries
  obtain ⟨hscalar, hopen, hcut, horder, hagain⟩ := h
  have hfree : ¬ (Value.mapping narrowEntries).IsCutOff [.text "search", .text "max_results"] := by
    rw [Value.isCutOff_mapping_cons]
    rintro ⟨search, hsearch, hcut⟩
    obtain rfl := Option.some.inj hsearch
    obtain ⟨next, hnext, -⟩ := Value.isCutOff_mapping_cons.mp hcut
    cases hnext
  refine ⟨isDictionary_narrowEntries, hscalar _ _ rfl (by decide), (hopen _ rfl hfree).trans rfl, hcut _ ?_, ?_,
    hagain⟩
  · exact ⟨[.text "log"], .text "level", [], .null, rfl, rfl, by decide⟩
  · obtain ⟨merged, hmerged, hkeys⟩ := horder [.text "search"] _ _ rfl rfl
    exact ⟨merged, hmerged, hkeys⟩

end Settings
end TermSearch

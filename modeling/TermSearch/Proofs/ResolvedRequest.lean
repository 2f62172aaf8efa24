import TermSearch.Proofs.QueryCode

/-! What resolving does to the variables of a request. Codes of hidden slashes are restored in the query, which is the
same as replacing one text after the other by its counterpart, and the page name is taken away where settings ask for
it; a code that is not there before is not there afterwards, since a code begins with a percent sign and has no other
one. Main statement: nothing else is changed, and resolving again changes nothing. -/
namespace TermSearch

namespace Assoc

variable {κ α : Type} [BEq κ]

/-- Inserting what is there already changes nothing. -/
theorem insert_eq_self {key : κ} {value : α} {m : List (κ × α)} (h : find? key m = some value) :
    insert key value m = m := by
  induction m with
  | nil => cases h
  | cons p m ih =>
    rw [find?_cons] at h
    rw [insert_cons]
    split at h
    · rename_i hfirst
      rw [if_pos hfirst, ← Option.some.inj h]
    · rename_i hfirst
      rw [if_neg hfirst, ih h]

end Assoc

namespace Route

/-- What stands behind the percent sign of a code of two digits, the second of which is the last one in either case. -/
def FollowsMark (digit : Char) (s : List Char) : Prop :=
  ∃ letter rest, (letter = 'F' ∨ letter = 'f') ∧ s = digit :: letter :: rest

section Codes

variable {old new : Char}

/-- Induction over a text in the steps in which codes are replaced. -/
@[elab_as_elim]
theorem codeInduction (old : Char) {motive : List Char → Prop} (s : List Char) (nil : motive [])
    (code : ∀ letter rest, letter = 'F' ∨ letter = 'f' → motive rest → motive ('%' :: old :: letter :: rest))
    (other : ∀ c rest, (c = '%' → ¬ FollowsMark old rest) → motive rest → motive (c :: rest)) : motive s := by
  fun_induction swapCode old old s with
  | case1 d letter rest h ih => exact h.1 ▸ code letter rest h.2 ih
  | case2 d letter rest h ih =>
    refine other _ _ (fun _ hfollows => h ?_) ih
    obtain ⟨letter, rest, hletter, heq⟩ := hfollows
    simp_all
  | case3 c rest h ih =>
    refine other _ _ (fun hc hfollows => ?_) ih
    obtain ⟨letter, rest, -, rfl⟩ := hfollows
    exact h _ _ _ hc rfl
  | case4 => exact nil

theorem swapCode_code {letter : Char} (h : letter = 'F' ∨ letter = 'f') (rest : List Char) :
    swapCode old new ('%' :: old :: letter :: rest) = '%' :: new :: letter :: swapCode old new rest := by
  rw [swapCode, if_pos ⟨rfl, h⟩]

theorem swapCode_other {c : Char} {rest : List Char} (h : c = '%' → ¬ FollowsMark old rest) :
    swapCode old new (c :: rest) = c :: swapCode old new rest := by
  rw [swapCode.eq_def]
  split
  · rename_i d letter rest' heq
    obtain ⟨rfl, rfl⟩ := List.cons.inj heq
    refine if_neg fun hcode => h rfl ⟨letter, rest', hcode.2, ?_⟩
    rw [hcode.1]
  · rename_i heq
    obtain ⟨rfl, rfl⟩ := List.cons.inj heq
    rfl
  · cases ‹_ :: _ = []›

/-- Replacing codes never changes the first character. -/
theorem head?_swapCode (old new : Char) (s : List Char) : (swapCode old new s).head? = s.head? := by
  induction s using codeInduction old with
  | nil => rfl
  | code letter rest hletter _ => rw [swapCode_code hletter, List.head?_cons, List.head?_cons]
  | other c rest hc _ => rw [swapCode_other hc, List.head?_cons, List.head?_cons]

/-- Replacing codes makes no new end of a code. -/
theorem followsMark_of_swapCode (hold : old ≠ '%') {s : List Char} (h : FollowsMark old (swapCode old new s)) :
    FollowsMark old s := by
  obtain ⟨letter, behind, hletter, heq⟩ := h
  obtain ⟨rest, rfl⟩ : ∃ rest, s = old :: rest := by
    rw [← List.head?_eq_some_iff, ← head?_swapCode old new, heq, List.head?_cons]
  rw [swapCode_of_ne _ _ hold, List.cons_inj_right] at heq
  obtain ⟨rest, rfl⟩ : ∃ rest', rest = letter :: rest' := by
    rw [← List.head?_eq_some_iff, ← head?_swapCode old new, heq, List.head?_cons]
  exact ⟨letter, rest, hletter, rfl⟩

theorem restoreSlashes_restoreSlashes (s : List Char) : restoreSlashes (restoreSlashes s) = restoreSlashes s := by
  unfold restoreSlashes
  induction s using codeInduction '1' with
  | nil => rfl
  | code letter rest hletter ih =>
    have hnew : ¬ FollowsMark '1' ('2' :: letter :: swapCode '1' '2' rest) := by
      rintro ⟨_, _, -, heq⟩
      cases heq
    have hmark : letter ≠ '%' := by
      rintro rfl
      exact absurd hletter (by decide)
    rw [swapCode_code hletter, swapCode_other fun _ => hnew, swapCode_of_ne _ _ (by decide), swapCode_of_ne _ _ hmark,
      ih]
  | other c rest hc ih =>
    rw [swapCode_other hc, swapCode_other fun hmark hfollows => hc hmark (followsMark_of_swapCode (by decide) hfollows),
      ih]

/-- Replaces a text, which is not empty, by another one wherever it occurs, from left to right. -/
def replaceAll (old new : List Char) : List Char → List Char
  | [] => []
  | c :: rest =>
    if old.isPrefixOf (c :: rest) then new ++ replaceAll old new (rest.drop (old.length - 1))
    else c :: replaceAll old new rest
termination_by s => s.length

theorem replaceAll_append (d : Char) (old new rest : List Char) :
    replaceAll (d :: old) new (d :: old ++ rest) = new ++ replaceAll (d :: old) new rest := by
  rw [List.cons_append, replaceAll, if_pos (by simp), List.length_cons, Nat.add_sub_cancel, List.drop_left]

theorem replaceAll_of_not_isPrefix {old : List Char} (new : List Char) {c : Char} {rest : List Char}
    (h : ¬ old <+: c :: rest) : replaceAll old new (c :: rest) = c :: replaceAll old new rest := by
  rw [replaceAll, if_neg fun hcode => h (List.isPrefixOf_iff_prefix.mp hcode)]

theorem replaceAll_code (letter : Char) (rest : List Char) :
    replaceAll ['%', '1', letter] ['%', '2', letter] ('%' :: '1' :: letter :: rest) =
      '%' :: '2' :: letter :: replaceAll ['%', '1', letter] ['%', '2', letter] rest :=
  replaceAll_append '%' ['1', letter] ['%', '2', letter] rest

/-- A text that is replaced by one with the same first character leaves that of the whole as it is. -/
theorem head?_replaceAll (d : Char) (old new s : List Char) :
    (replaceAll (d :: old) (d :: new) s).head? = s.head? := by
  cases s with
  | nil => rw [replaceAll]
  | cons c rest =>
    by_cases hcode : d :: old <+: c :: rest
    · obtain ⟨behind, hbehind⟩ := hcode
      rw [← hbehind, replaceAll_append]
      rfl
    · rw [replaceAll_of_not_isPrefix _ hcode, List.head?_cons, List.head?_cons]

/-- Replacing the codes with an upper-case letter makes no new end of a code with a lower-case one. -/
theorem followsMark_of_replaceAll {s behind : List Char}
    (h : replaceAll ['%', '1', 'F'] ['%', '2', 'F'] s = '1' :: 'f' :: behind) : FollowsMark '1' s := by
  obtain ⟨rest, rfl⟩ : ∃ rest, s = '1' :: rest := by
    rw [← List.head?_eq_some_iff, ← head?_replaceAll, h, List.head?_cons]
  rw [replaceAll_of_not_isPrefix _ (by simp), List.cons_inj_right] at h
  obtain ⟨rest, rfl⟩ : ∃ rest', rest = 'f' :: rest' := by
    rw [← List.head?_eq_some_iff, ← head?_replaceAll, h, List.head?_cons]
  exact ⟨'f', rest, .inr rfl, rfl⟩

/-- Restoring slashes replaces the codes with one letter and then those with the other. -/
theorem restoreSlashes_eq_replaceAll (s : List Char) :
    restoreSlashes s =
      replaceAll ['%', '1', 'f'] ['%', '2', 'f'] (replaceAll ['%', '1', 'F'] ['%', '2', 'F'] s) := by
  unfold restoreSlashes
  induction s using codeInduction '1' with
  | nil => simp [swapCode, replaceAll]
  | code letter rest hletter ih =>
    rw [swapCode_code hletter, ih]
    rcases hletter with rfl | rfl
    · rw [replaceAll_code, replaceAll_of_not_isPrefix _ (by simp), replaceAll_of_not_isPrefix _ (by simp),
        replaceAll_of_not_isPrefix _ (by simp)]
    · rw [replaceAll_of_not_isPrefix ['%', '2', 'F'] (by simp), replaceAll_of_not_isPrefix ['%', '2', 'F'] (by simp),
        replaceAll_of_not_isPrefix ['%', '2', 'F'] (by simp), replaceAll_code]
  | other c rest hc ih =>
    have hupper : ¬ ['%', '1', 'F'] <+: c :: rest := by
      rintro ⟨behind, hbehind⟩
      obtain ⟨rfl, hrest⟩ := List.cons.inj hbehind
      exact hc rfl ⟨'F', behind, .inl rfl, hrest.symm⟩
    rw [swapCode_other hc, ih, replaceAll_of_not_isPrefix _ hupper]
    refine (replaceAll_of_not_isPrefix _ ?_).symm
    rintro ⟨behind, hbehind⟩
    obtain ⟨rfl, hrest⟩ := List.cons.inj hbehind
    exact hc rfl (followsMark_of_replaceAll hrest.symm)

end Codes

section Variables

variable {settings : RequestSettings} {vars : Variables} {query : String}

theorem restoreQuery_restoreQuery (allowSlash : Bool) (value : String) :
    restoreQuery allowSlash (restoreQuery allowSlash value) = restoreQuery allowSlash value := by
  cases allowSlash with
  | false => rfl
  | true => simp only [restoreQuery, if_true, String.toList_ofList, restoreSlashes_restoreSlashes]

theorem resolve_of_find?_eq_none (h : Assoc.find? queryVariable vars = none) : resolve settings vars = vars := by
  rw [resolve, h]

theorem find?_resolve_of_ne {key : String} (hquery : key ≠ queryVariable) (hpage : key ≠ pageVariable) :
    Assoc.find? key (resolve settings vars) = Assoc.find? key vars := by
  rw [resolve]
  cases Assoc.find? queryVariable vars with
  | none => rfl
  | some query => cases settings.customPage <;> simp [hquery.symm, hpage.symm]

theorem find?_page_resolve (h : Assoc.find? queryVariable vars = some query) :
    Assoc.find? pageVariable (resolve settings vars) =
      if settings.customPage then some "" else Assoc.find? pageVariable vars := by
  have hne : queryVariable ≠ pageVariable := by decide
  rw [resolve, h]
  cases settings.customPage <;> simp [hne]

/-- Resolving adds the page name, and this only where it takes it away from a request that does not have it. -/
theorem keys_resolve (h : Assoc.find? queryVariable vars = some query) :
    Assoc.keys (resolve settings vars) = Assoc.keys vars ++
      if settings.customPage = true ∧ pageVariable ∉ Assoc.keys vars then [pageVariable] else [] := by
  have hquery : queryVariable ∈ Assoc.keys vars := Assoc.mem_keys_iff.mpr ⟨query, h⟩
  rw [resolve, h]
  cases settings.customPage with
  | false => simp [Assoc.keys_insert, Assoc.has_eq_true_iff, hquery]
  | true => by_cases hpage : pageVariable ∈ Assoc.keys vars <;>
      simp [Assoc.keys_insert, Assoc.has_eq_true_iff, hquery, hpage]

/-- A request that is resolved already is left as it is. -/
theorem resolve_eq_self (hquery : Assoc.find? queryVariable vars = some query)
    (hrestored : restoreQuery settings.allowSlash query = query)
    (hpage : settings.customPage = true → Assoc.find? pageVariable vars = some "") : resolve settings vars = vars := by
  have hvars : (if settings.customPage then Assoc.insert pageVariable "" vars else vars) = vars := by
    split
    · exact Assoc.insert_eq_self (hpage (by assumption))
    · rfl
  rw [resolve, hquery]
  dsimp only
  rw [hvars, hrestored, Assoc.insert_eq_self hquery]

end Variables

/-- Resolving leaves a request without a query as it is, changes no variable but the query and the page name, and keeps
the order of the variables. In the query it replaces the two codes of hidden slashes one after the other where slashes
are allowed; the page name becomes empty, behind the other variables where it is new, if the settings ask for it.
Resolving again changes nothing. -/
theorem resolve_changes_query_and_page (settings : RequestSettings) (vars : Variables) :
    (Assoc.find? queryVariable vars = none → resolve settings vars = vars) ∧
    (∀ key, key ≠ queryVariable → key ≠ pageVariable →
      Assoc.find? key (resolve settings vars) = Assoc.find? key vars) ∧
    Assoc.keys vars <+: Assoc.keys (resolve settings vars) ∧
    resolve settings (resolve settings vars) = resolve settings vars ∧
    ∀ query, Assoc.find? queryVariable vars = some query →
      Assoc.find? queryVariable (resolve settings vars) = some (if settings.allowSlash then
        String.ofList (replaceAll "%1f".toList "%2f".toList (replaceAll "%1F".toList "%2F".toList query.toList))
        else query) ∧
      Assoc.find? pageVariable (resolve settings vars) =
        (if settings.customPage then some "" else Assoc.find? pageVariable vars) ∧
      Assoc.keys (resolve settings vars) = Assoc.keys vars ++
        if settings.customPage = true ∧ pageVariable ∉ Assoc.keys vars then [pageVariable] else [] := by
  refine ⟨resolve_of_find?_eq_none, fun key => find?_resolve_of_ne, ?_, ?_, fun query hquery => ⟨?_, ?_, ?_⟩⟩
  · cases hquery : Assoc.find? queryVariable vars with
    | none => exact (resolve_of_find?_eq_none hquery).symm ▸ List.prefix_rfl
    | some query => exact keys_resolve hquery ▸ List.prefix_append _ _
  · cases hquery : Assoc.find? queryVariable vars with
    | none => rw [resolve_of_find?_eq_none hquery, resolve_of_find?_eq_none hquery]
    | some query =>
      refine resolve_eq_self (find?_resolve settings hquery) (restoreQuery_restoreQuery _ query) fun hpage => ?_
      rw [find?_page_resolve hquery, if_pos hpage]
  · rw [find?_resolve settings hquery, restoreQuery, restoreSlashes_eq_replaceAll]
    rfl
  · exact find?_page_resolve hquery
  · exact keys_resolve hquery

example : resolve { customPage := true } [("pagename", "about"), ("s", "%%1F1f%1"), ("paged", "")] =
    [("pagename", ""), ("s", "%%2F1f%1"), ("paged", "")] := by decide +kernel

end Route

end TermSearch

import TermSearch.Proofs.ModeNesting
import TermSearch.Text.Space

/-! What decides how a term is cut into sub-terms. A boundary character cuts a term in two, each half with its own
sub-terms, and a stretch without boundary characters is trimmed and kept where something is left of it. Main statement:
no other way of cutting does this, so all that holds of sub-terms follows from the two laws. To cut at whole runs of
boundary characters comes to the same. -/
namespace TermSearch.Text

/-- Ways of cutting a term: each boundary character is a cut, and between cuts a term is trimmed. -/
structure CutsAtBoundaries (cut : String → List String) : Prop where
  boundary : ∀ x y d, isBoundary d = true → cut (x ++ String.singleton d ++ y) = cut x ++ cut y
  stretch : ∀ t, (∀ c ∈ t.toList, isBoundary c = false) → cut t = if trim t = "" then [] else [trim t]

theorem cutsAtBoundaries_subterms : CutsAtBoundaries subterms where
  boundary x y d hd := by
    have hchars : (x ++ String.singleton d ++ y).toList = x.toList ++ d :: y.toList := by simp
    rw [subterms, hchars, splitWhen_append_cons hd, List.map_append, List.filter_append, List.map_append]
    rfl
  stretch t ht := by
    rw [subterms, splitWhen_of_none ht, List.map_singleton, trim]
    cases trimChars t.toList with
    | nil => rfl
    | cons c s => simp

/-- Cutting a term at its boundary characters one by one leaves stretches without any. -/
@[elab_as_elim]
theorem boundary_induction {motive : String → Prop} (t : String)
    (stretch : ∀ t, (∀ c ∈ t.toList, isBoundary c = false) → motive t)
    (cut : ∀ x d y, isBoundary d = true → motive x → motive y → motive (x ++ String.singleton d ++ y)) :
    motive t := by
  -- the characters in front of the next boundary character are put aside
  have hfrom : ∀ rest front : List Char, (∀ c ∈ front, isBoundary c = false) →
      motive (String.ofList (front ++ rest)) := by
    intro rest
    induction rest with
    | nil =>
      intro front hfront
      rw [List.append_nil]
      exact stretch _ (by simpa using hfront)
    | cons c rest ih =>
      intro front hfront
      cases hc : isBoundary c with
      | true =>
        have hcut := cut (String.ofList front) c (String.ofList rest) hc (stretch _ (by simpa using hfront))
          (ih [] (List.forall_mem_nil _))
        have hjoin : String.ofList (front ++ c :: rest) =
            String.ofList front ++ String.singleton c ++ String.ofList rest := String.toList_inj.mp (by simp)
        rwa [hjoin]
      | false =>
        have hnext := ih (front ++ [c]) (List.forall_mem_append.mpr ⟨hfront, List.forall_mem_singleton.mpr hc⟩)
        rwa [List.append_assoc] at hnext
  simpa using hfrom t.toList [] (List.forall_mem_nil _)

section Runs

variable {p : Char → Bool} {keep : List Char → Bool}

/-- The stretches of a text between runs of characters of a class, where a run is as long as possible; one that stands
at an end of the text has an empty stretch outside of it. -/
def betweenRuns (p : Char → Bool) : List Char → List (List Char)
  | [] => [[]]
  | c :: rest =>
    if p c then [] :: betweenRuns p (rest.dropWhile p)
    else
      match betweenRuns p rest with
      | [] => [[c]]
      | first :: others => (c :: first) :: others
termination_by s => s.length
decreasing_by
  · exact Nat.lt_succ_of_le (List.dropWhile_suffix p).length_le
  · exact Nat.lt_succ_self _

/-- The characters of a run leave empty stretches only. -/
theorem filter_splitWhen_dropWhile (hkeep : keep [] = false) (s : List Char) :
    (splitWhen p (s.dropWhile p)).filter keep = (splitWhen p s).filter keep := by
  induction s with
  | nil => rfl
  | cons c rest ih =>
    by_cases hc : p c = true
    · rw [List.dropWhile_cons_of_pos hc, ih, splitWhen_cons_of_pos hc, List.filter_cons_of_neg (by simp [hkeep])]
    · rw [List.dropWhile_cons_of_neg hc]

/-- Runs and single characters cut a text into the same stretches, empty ones behind the first stretch aside. -/
theorem exists_first_stretch (p : Char → Bool) (keep : List Char → Bool) (hkeep : keep [] = false) (s : List Char) :
    ∃ first runs cuts, betweenRuns p s = first :: runs ∧ splitWhen p s = first :: cuts ∧
      runs.filter keep = cuts.filter keep := by
  fun_induction betweenRuns p s with
  | case1 => exact ⟨[], [], [], rfl, rfl, rfl⟩
  | case2 c rest hc ih =>
    obtain ⟨first, runs, cuts, hruns, hcuts, heq⟩ := ih
    refine ⟨[], betweenRuns p (rest.dropWhile p), splitWhen p rest, rfl, splitWhen_cons_of_pos hc rest, ?_⟩
    rw [← filter_splitWhen_dropWhile hkeep rest, hruns, hcuts, List.filter_cons, List.filter_cons, heq]
  | case3 c rest hc hnil ih =>
    obtain ⟨first, runs, cuts, hruns, -⟩ := ih
    cases hnil.symm.trans hruns
  | case4 c rest hc first others hsome ih =>
    obtain ⟨first, runs, cuts, hruns, hcuts, heq⟩ := ih
    obtain ⟨rfl, rfl⟩ := List.cons.inj (hsome.symm.trans hruns)
    exact ⟨c :: _, _, cuts, rfl, by rw [splitWhen, if_neg hc, hcuts], heq⟩

/-- A term is cut at runs of boundary characters: what runs and single characters cut differently is empty. -/
theorem subterms_eq_betweenRuns (term : String) :
    subterms term =
      (((betweenRuns isBoundary term.toList).map trimChars).filter (! ·.isEmpty)).map String.ofList := by
  obtain ⟨first, runs, cuts, hruns, hcuts, heq⟩ :=
    exists_first_stretch isBoundary (fun s => !(trimChars s).isEmpty) rfl term.toList
  rw [subterms, hruns, hcuts, List.filter_map, List.filter_map]
  congr 2
  show List.filter (fun s => !(trimChars s).isEmpty) _ = List.filter (fun s => !(trimChars s).isEmpty) _
  rw [List.filter_cons, List.filter_cons, heq]

end Runs

section Trimming

variable {s : List Char}

theorem trim_trim (t : String) : trim (trim t) = trim t := by
  have hends : trimChars (trimChars t.toList) = trimChars t.toList := stripChars_stripChars isBlank t.toList
  rw [trim, toList_trim, hends, trim]

theorem filter_dropWhile {drop p : Char → Bool} (h : ∀ c, drop c = true → p c = false) (s : List Char) :
    (s.dropWhile drop).filter p = s.filter p := by
  induction s with
  | nil => rfl
  | cons c s ih =>
    cases hc : drop c with
    | true => rw [List.dropWhile_cons_of_pos hc, ih, List.filter_cons_of_neg (by simp [h c hc])]
    | false => rw [List.dropWhile_cons_of_neg (by simp [hc])]

/-- Trimming takes away blank characters only. -/
theorem filter_trimChars {p : Char → Bool} (h : ∀ c, isBlank c = true → p c = false) (s : List Char) :
    (trimChars s).filter p = s.filter p := by
  rw [trimChars, List.filter_reverse, filter_dropWhile h, ← List.filter_reverse, List.reverse_reverse,
    filter_dropWhile h]

end Trimming

namespace CutsAtBoundaries

variable {cut other : String → List String} {term piece : String}

theorem unique (h : CutsAtBoundaries cut) (hother : CutsAtBoundaries other) : cut = other := by
  funext term
  induction term using boundary_induction with
  | stretch t ht => rw [h.stretch t ht, hother.stretch t ht]
  | cut x d y hd hx hy => rw [h.boundary x y d hd, hother.boundary x y d hd, hx, hy]

/-- A piece is what trimming leaves of a stretch. -/
theorem exists_stretch (h : CutsAtBoundaries cut) (hpiece : piece ∈ cut term) :
    ∃ t, (∀ c ∈ t.toList, isBoundary c = false) ∧ piece = trim t ∧ trim t ≠ "" := by
  induction term using boundary_induction with
  | stretch t ht =>
    rw [h.stretch t ht] at hpiece
    split at hpiece
    · cases hpiece
    · rename_i hne
      exact ⟨t, ht, List.mem_singleton.mp hpiece, hne⟩
  | cut x d y hd hx hy =>
    rw [h.boundary x y d hd] at hpiece
    exact (List.mem_append.mp hpiece).elim hx hy

theorem piece_spec (h : CutsAtBoundaries cut) (hpiece : piece ∈ cut term) :
    piece ≠ "" ∧ trim piece = piece ∧ (∀ c ∈ piece.toList, isBoundary c = false) ∧ cut piece = [piece] := by
  obtain ⟨t, ht, rfl, hne⟩ := h.exists_stretch hpiece
  have hinner : ∀ c ∈ (trim t).toList, isBoundary c = false := by
    intro c hc
    rw [toList_trim] at hc
    exact ht c ((infix_trimChars t.toList).mem hc)
  refine ⟨hne, trim_trim t, hinner, ?_⟩
  rw [h.stretch _ hinner, trim_trim, if_neg hne]

/-- What is neither a boundary nor blank stays, once and in order. -/
theorem filter_flatMap (h : CutsAtBoundaries cut) (term : String) :
    (((cut term).flatMap String.toList).filter fun c => !isBoundary c && !isBlank c) =
      term.toList.filter fun c => !isBoundary c && !isBlank c := by
  induction term using boundary_induction with
  | stretch t ht =>
    have htrim := filter_trimChars (p := fun c => !isBoundary c && !isBlank c) (by simp +contextual) t.toList
    rw [h.stretch t ht, ← htrim, ← toList_trim]
    split
    · rename_i hempty
      rw [hempty]
      rfl
    · rw [List.flatMap_singleton]
  | cut x d y hd hx hy =>
    rw [h.boundary x y d hd, List.flatMap_append, List.filter_append, hx, hy]
    simp [hd]

end CutsAtBoundaries

/-- The sub-terms of a term are determined by its boundaries. Each of them is trimmed, is not empty, has no boundary
character and is its own only sub-term, and together they have what is neither a boundary nor blank. -/
theorem subterms_determined_by_boundaries :
    (∀ cut : String → List String, CutsAtBoundaries cut ↔ cut = subterms) ∧
    ∀ term : String,
      (∀ piece ∈ subterms term,
        piece ≠ "" ∧ trim piece = piece ∧ (∀ c ∈ piece.toList, isBoundary c = false) ∧ subterms piece = [piece]) ∧
      (((subterms term).flatMap String.toList).filter fun c => !isBoundary c && !isBlank c) =
        term.toList.filter fun c => !isBoundary c && !isBlank c := by
  have hlaws := cutsAtBoundaries_subterms
  refine ⟨fun cut => ⟨fun h => h.unique hlaws, ?_⟩, fun term => ⟨fun _ => hlaws.piece_spec, hlaws.filter_flatMap term⟩⟩
  rintro rfl
  exact hlaws

end TermSearch.Text

import Mathlib.Data.List.FinRange
import Mathlib.Data.List.SplitBy
import TermSearch.Proofs.FragmentPlaces

/-! The fragments of a sub-term by its runs. A text falls into runs of narrow and of wide characters in turn; the
fragments are the narrow runs, and the pairs of neighbours in the wide ones. Main statement: this is what the scan with
its pending run and its look at the next character finds, and the patterns of a sub-term that is expanded leave out one
short fragment each, place by place. -/
namespace TermSearch.Query

open Text (isWide)

/-- The longest stretches of a text in which all characters have the same width. -/
def widthRuns (s : List Char) : List (List Char) := s.splitBy fun c d => isWide c == isWide d

/-- The pairs of neighbours in a run, one less than it has characters. -/
def neighbourPairs (run : List Char) : List (List Char) := List.zipWith (fun c d => [c, d]) run run.tail

/-- What stands for a run among the fragments: its pairs where it is wide, otherwise the run. -/
def runPieces (run : List Char) : List (List Char) := if run.all isWide then neighbourPairs run else [run]

/-- The fragments of a text by its runs. -/
def runFragments (s : String) : List String := ((widthRuns s.toList).flatMap runPieces).map String.ofList

/-- The patterns that leave out one short text each, in order of their places. -/
def omissions (texts : List String) : List Pattern :=
  ((List.finRange texts.length).filter fun j => (texts.get j).length ≤ 2).map fun j =>
    .inOrder (texts.eraseIdx j.val)

/-- Runs that alternate: none is empty, the characters of each have one width, and another one follows. -/
inductive Alternate : List (List Char) → Prop
  | nil : Alternate []
  | cons {run : List Char} {runs : List (List Char)} {wide : Bool} (nonempty : run ≠ [])
      (width : ∀ c ∈ run, isWide c = wide) (change : ∀ c ∈ runs.flatten.head?, isWide c = !wide)
      (rest : Alternate runs) : Alternate (run :: runs)

section Runs

variable {run rest : List Char}

/-- Where neighbours have the same width, all characters have the width of the first one. -/
theorem isWide_eq_of_isChain {c : Char} (h : (c :: run).IsChain fun c d => isWide c == isWide d) :
    ∀ d ∈ c :: run, isWide d = isWide c := by
  induction run generalizing c with
  | nil => simp
  | cons d run ih =>
    obtain ⟨hcd, hrun⟩ := List.isChain_cons_cons.mp h
    have hd : isWide d = isWide c := (beq_iff_eq.mp hcd).symm
    refine List.forall_mem_cons.mpr ⟨rfl, ?_⟩
    intro e he
    exact (ih hrun e he).trans hd

theorem alternate_of_isChain {runs : List (List Char)} (hne : [] ∉ runs)
    (hwidth : ∀ run ∈ runs, run.IsChain fun c d => isWide c == isWide d)
    (hchange : runs.IsChain fun a b => ∃ ha hb, (isWide (a.getLast ha) == isWide (b.head hb)) = false) :
    Alternate runs := by
  induction runs with
  | nil => exact .nil
  | cons run runs ih =>
    rw [List.mem_cons, not_or] at hne
    obtain ⟨hrun, hruns⟩ := List.forall_mem_cons.mp hwidth
    cases run with
    | nil => exact absurd rfl hne.1
    | cons c run =>
      have hall := isWide_eq_of_isChain hrun
      refine .cons (List.cons_ne_nil c run) hall ?_ (ih hne.2 hruns hchange.tail)
      intro d hd
      cases runs with
      | nil => cases hd
      | cons next runs =>
        obtain ⟨⟨hlast, hnext, hdiffer⟩, -⟩ := List.isChain_cons_cons.mp hchange
        rw [List.flatten_cons, List.head?_append_of_ne_nil _ hnext, List.head?_eq_some_head hnext] at hd
        obtain rfl := Option.some.inj hd
        rw [hall _ (List.getLast_mem hlast)] at hdiffer
        exact Bool.eq_not_of_ne (beq_eq_false_iff_ne.mp hdiffer).symm

theorem alternate_widthRuns (s : List Char) : Alternate (widthRuns s) :=
  alternate_of_isChain (List.nil_notMem_splitBy _ s) (fun _ => List.isChain_of_mem_splitBy)
    (List.isChain_getLast_head_splitBy (fun c d => isWide c == isWide d) s)

/-- A wide run gives its pairs; its last character makes none with the narrow one behind it. -/
theorem fragmentsFrom_wideRun (hrun : ∀ c ∈ run, isWide c = true) (hrest : ∀ c ∈ rest.head?, isWide c = false) :
    fragmentsFrom [] (run ++ rest) = neighbourPairs run ++ fragmentsFrom [] rest := by
  induction run with
  | nil => rfl
  | cons c run ih =>
    obtain ⟨hc, htail⟩ := List.forall_mem_cons.mp hrun
    rw [List.cons_append, fragmentsFrom, if_pos hc, ih htail]
    cases run with
    | nil => simp [pendingRun, neighbourPairs, widePair_of_head? hrest]
    | cons d run =>
      have hd : isWide d = true := htail d List.mem_cons_self
      simp [pendingRun, neighbourPairs, widePair, hd]

/-- The scan finds the fragments of one run after the other. -/
theorem Alternate.fragmentsFrom_flatten {runs : List (List Char)} (h : Alternate runs) :
    fragmentsFrom [] runs.flatten = runs.flatMap runPieces := by
  induction h with
  | nil => rfl
  | @cons run runs wide hne hwidth hchange _ ih =>
    rw [List.flatten_cons, List.flatMap_cons, ← ih, runPieces]
    cases wide with
    | true => rw [if_pos (List.all_eq_true.mpr hwidth), fragmentsFrom_wideRun hwidth hchange]
    | false =>
      obtain ⟨c, hc⟩ := List.exists_mem_of_ne_nil run hne
      have hnarrow : run.all isWide = false := List.all_eq_false.mpr ⟨c, hc, by simp [hwidth c hc]⟩
      rw [hnarrow, if_neg Bool.false_ne_true, fragmentsFrom_append_narrow hwidth, fragmentsFrom_of_head? hchange]
      simp [pendingRun, hne]

theorem fragments_eq_runFragments (s : String) : fragments s = runFragments s := by
  have hruns := (alternate_widthRuns s.toList).fragmentsFrom_flatten
  rw [widthRuns, List.flatten_splitBy] at hruns
  rw [fragments, hruns]
  rfl

end Runs

section Omissions

/-- Each text is left out at its own place. -/
theorem leaveOneOut_eq_map {α : Type} (xs : List α) :
    leaveOneOut xs = (List.finRange xs.length).map fun j => (xs.get j, xs.eraseIdx j) := by
  induction xs with
  | nil => rfl
  | cons x xs ih =>
    have hplaces : List.finRange (x :: xs).length = 0 :: (List.finRange xs.length).map Fin.succ :=
      List.finRange_succ
    rw [leaveOneOut, ih, hplaces, List.map_cons, List.map_map, List.map_map]
    rfl

variable {texts : List String}

theorem omissions_eq (texts : List String) : omissions texts =
    ((leaveOneOut texts).filter fun p => p.1.length ≤ greatestDropped).map fun p => .inOrder p.2 := by
  rw [leaveOneOut_eq_map, List.filter_map, List.map_map]
  rfl

theorem expand_eq (s : String) : expand s =
    .containing s :: if 4 ≤ s.length ∧ s.length ≤ 10 then omissions (fragments s) else [] := by
  have hlength : isExpandable s = true ↔ 4 ≤ s.length ∧ s.length ≤ 10 := by
    rw [isExpandable, Bool.and_eq_true, decide_eq_true_eq, decide_eq_true_eq]
    rfl
  simp only [expand, omissions_eq, hlength]

/-- There is one pattern for each short text, whether or not two of them are the same. -/
theorem length_omissions (texts : List String) :
    (omissions texts).length = texts.countP fun t => t.length ≤ 2 := by
  have hcount : ((leaveOneOut texts).map Prod.fst) = texts := by
    induction texts with
    | nil => rfl
    | cons t texts ih => simp [leaveOneOut, Function.comp_def, ih]
  rw [omissions_eq, List.length_map, ← List.countP_eq_length_filter]
  conv_rhs => rw [← hcount, List.countP_map]
  rfl

/-- Long texts are never left out. -/
theorem filter_segments_of_mem_omissions {p : Pattern} (h : p ∈ omissions texts) :
    (p.segments.filter fun t => 2 < t.length) = texts.filter fun t => 2 < t.length := by
  rw [omissions_eq, List.mem_map] at h
  obtain ⟨q, hq, rfl⟩ := h
  obtain ⟨hmem, hshort⟩ := List.mem_filter.mp hq
  obtain ⟨before, after, rfl, hkept⟩ := mem_leaveOneOut_iff.mp hmem
  have hle : q.1.length ≤ 2 := of_decide_eq_true hshort
  simp [Pattern.segments, hkept, Nat.not_lt.mpr hle]

end Omissions

/-- The fragments of a sub-term are those of its runs. Its patterns are the literal one and, where it has from four to
ten characters, one for each short fragment, whose segments are the other fragments: all the long ones are among them,
none is empty, and the pattern passes the checks. -/
theorem fragments_and_patterns_by_runs {s : String} (h : s ≠ "") :
    fragments s = runFragments s ∧
    expand s = .containing s :: (if 4 ≤ s.length ∧ s.length ≤ 10 then omissions (runFragments s) else []) ∧
    (omissions (runFragments s)).length = ((runFragments s).countP fun f => f.length ≤ 2) ∧
    (∀ p ∈ omissions (runFragments s), (p.segments.filter fun f => 2 < f.length) =
      (runFragments s).filter fun f => 2 < f.length) ∧
    ∀ p ∈ expand s, (∀ segment ∈ p.segments, segment ≠ "") ∧ Pattern.ofSegments? p.segments .off = .ok p := by
  refine ⟨fragments_eq_runFragments s, ?_, length_omissions _, fun _ => filter_segments_of_mem_omissions, ?_⟩
  · rw [expand_eq, fragments_eq_runFragments]
  · intro p hp
    have hformed : p.IsWellFormed false := isWellFormed_of_mem_expand h hp
    have hform : p.form = .off := by
      rw [eq_inOrder_of_mem_expand hp]
      rfl
    exact ⟨hformed.nonempty, hform ▸ hformed.checked⟩

theorem fragments_and_patterns_by_runs_station :
    "東Tokyo京都駅" ≠ "" ∧ fragments "東Tokyo京都駅" = ["Tokyo", "京都", "都駅"] ∧
    expand "東Tokyo京都駅" =
      [.containing "東Tokyo京都駅", .inOrder ["Tokyo", "都駅"], .inOrder ["Tokyo", "京都"]] := by
  have hne : "東Tokyo京都駅" ≠ "" := by decide
  have hruns : runFragments "東Tokyo京都駅" = ["Tokyo", "京都", "都駅"] := by decide +kernel
  obtain ⟨hfragments, hpatterns, -⟩ := fragments_and_patterns_by_runs hne
  rw [hruns] at hfragments hpatterns
  exact ⟨hne, hfragments, hpatterns⟩

end TermSearch.Query

import TermSearch.Proofs.PlanShape

/-! Where the fragments of a sub-term stand. A fragment is found at each of its places: a run of narrow characters
between wide ones or the ends, or two wide characters side by side. At such a place the fragments are those that
the two sides have, seen with the wide character at the edge, and the fragment itself. -/
namespace TermSearch.Query

open Text (isWide foldChar foldChars)

/-- A fragment of a text with what stands in front of it and behind it: a run of narrow characters with a wide
character or nothing on either side, or two wide characters next to each other. -/
inductive FragmentAt : List Char → List Char → List Char → Prop
  | run {front run behind : List Char} (nonempty : run ≠ []) (narrow : ∀ c ∈ run, isWide c = false)
      (left : ∀ c ∈ front.getLast?, isWide c = true) (right : ∀ c ∈ behind.head?, isWide c = true) :
      FragmentAt front run behind
  | pair {front : List Char} {c d : Char} {behind : List Char} (first : isWide c = true)
      (second : isWide d = true) : FragmentAt front [c, d] behind

section Fragments

variable {front run behind s t f : List Char} {c d : Char}

/-- What stands behind a wide character, or at the end, flushes the pending run. -/
theorem fragmentsFrom_of_head? (h : ∀ c ∈ t.head?, isWide c = true) (run : List Char) :
    fragmentsFrom run t = pendingRun run ++ fragmentsFrom [] t := by
  cases t with
  | nil => simp [fragmentsFrom, pendingRun]
  | cons c t =>
    have hc : isWide c = true := h c rfl
    simp [fragmentsFrom, hc, pendingRun]

/-- Narrow characters join the pending run. -/
theorem fragmentsFrom_append_narrow (h : ∀ c ∈ s, isWide c = false) (run t : List Char) :
    fragmentsFrom run (s ++ t) = fragmentsFrom (run ++ s) t := by
  induction s generalizing run with
  | nil => simp
  | cons c s ih =>
    obtain ⟨hc, hs⟩ := List.forall_mem_cons.mp h
    rw [List.cons_append, fragmentsFrom, hc, if_neg Bool.false_ne_true, ih hs, List.append_assoc]
    rfl

/-- At a wide character a text is cut into fragments on both sides, each of which sees the character. -/
theorem fragmentsFrom_append_wide (hc : isWide c = true) (run s t : List Char) :
    fragmentsFrom run (s ++ c :: t) = fragmentsFrom run (s ++ [c]) ++ fragmentsFrom [] (c :: t) := by
  induction s generalizing run with
  | nil => simp [fragmentsFrom, hc, pendingRun, widePair]
  | cons d s ih =>
    have hpair : widePair d (s ++ c :: t) = widePair d (s ++ [c]) := by cases s <;> rfl
    rw [List.cons_append, List.cons_append, fragmentsFrom, fragmentsFrom, ih, ih, hpair]
    split <;> simp

/-- A wide character at the end that has no wide one in front of it is in no fragment. -/
theorem fragmentsFrom_append_singleton (hc : isWide c = true) (h : ∀ d ∈ s.getLast?, isWide d = false)
    (run : List Char) : fragmentsFrom run (s ++ [c]) = fragmentsFrom run s := by
  induction s generalizing run with
  | nil => simp [fragmentsFrom, hc, pendingRun, widePair]
  | cons d s ih =>
    cases s with
    | nil =>
      have hd : isWide d = false := h d rfl
      simp [fragmentsFrom, hc, hd, pendingRun, widePair]
    | cons e s =>
      have hrest : ∀ d ∈ (e :: s).getLast?, isWide d = false := by
        rwa [List.getLast?_cons_cons] at h
      have hpair : widePair d (e :: s ++ [c]) = widePair d (e :: s) := rfl
      rw [List.cons_append, fragmentsFrom, fragmentsFrom.eq_2 run d, ih hrest, ih hrest, hpair]

theorem widePair_of_head? (h : ∀ d ∈ t.head?, isWide d = false) (c : Char) : widePair c t = [] := by
  cases t with
  | nil => rfl
  | cons d t => simp [widePair, h d rfl]

/-- Two wide characters side by side are a fragment, and both are seen by the fragments on their sides. -/
theorem fragmentsFrom_pair (hc : isWide c = true) (hd : isWide d = true) (front behind : List Char) :
    fragmentsFrom [] (front ++ [c, d] ++ behind) =
      fragmentsFrom [] (front ++ [c]) ++ [c, d] :: fragmentsFrom [] (d :: behind) := by
  rw [List.append_assoc, List.cons_append, fragmentsFrom_append_wide hc]
  simp [fragmentsFrom.eq_2 [] c, hc, hd, pendingRun, widePair]

/-- A run of narrow characters is a fragment, and the fragments on its sides do not see it. -/
theorem fragmentsFrom_run (hne : run ≠ []) (hrun : ∀ c ∈ run, isWide c = false)
    (hleft : ∀ c ∈ front.getLast?, isWide c = true) (hright : ∀ c ∈ behind.head?, isWide c = true) :
    fragmentsFrom [] (front ++ run ++ behind) = fragmentsFrom [] front ++ run :: fragmentsFrom [] behind := by
  have hbehind : fragmentsFrom [] (run ++ behind) = run :: fragmentsFrom [] behind := by
    rw [fragmentsFrom_append_narrow hrun, fragmentsFrom_of_head? hright]
    simp [pendingRun, hne]
  rcases List.eq_nil_or_concat front with rfl | ⟨front, c, rfl⟩
  · simpa [fragmentsFrom, pendingRun] using hbehind
  · have hc : isWide c = true := hleft c (by simp)
    -- the first character of the run is narrow and makes no pair with the one in front of it
    have hpair : widePair c (run ++ behind) = [] := by
      refine widePair_of_head? (fun d hd => ?_) c
      rw [List.head?_append_of_ne_nil _ hne] at hd
      exact hrun d (List.mem_of_mem_head? hd)
    rw [List.concat_eq_append, List.append_assoc, List.append_assoc, List.singleton_append,
      fragmentsFrom_append_wide hc, fragmentsFrom.eq_2 [] c, if_pos hc, hpair, hbehind]
    rfl

theorem FragmentAt.exists_fragments_eq (h : FragmentAt front f behind) :
    ∃ before after, fragmentsFrom [] (front ++ f ++ behind) = before ++ f :: after := by
  cases h with
  | run hne hrun hleft hright => exact ⟨_, _, fragmentsFrom_run hne hrun hleft hright⟩
  | pair hc hd => exact ⟨_, _, fragmentsFrom_pair hc hd front behind⟩

/-- A pending run that is flushed stands at its place. -/
theorem fragmentAt_of_mem_pendingRun (hrun : ∀ c ∈ run, isWide c = false)
    (hleft : ∀ c ∈ front.getLast?, isWide c = true) (hright : ∀ c ∈ behind.head?, isWide c = true)
    (hf : f ∈ pendingRun run) : f = run ∧ FragmentAt front f behind := by
  cases run with
  | nil => cases hf
  | cons c run =>
    obtain rfl := List.mem_singleton.mp hf
    exact ⟨rfl, .run (List.cons_ne_nil c run) hrun hleft hright⟩

theorem exists_fragmentAt_of_mem (hrun : ∀ c ∈ run, isWide c = false)
    (hleft : ∀ c ∈ front.getLast?, isWide c = true) (hf : f ∈ fragmentsFrom run t) :
    ∃ before after, front ++ run ++ t = before ++ f ++ after ∧ FragmentAt before f after := by
  induction t generalizing front run with
  | nil =>
    have hright : ∀ c ∈ ([] : List Char).head?, isWide c = true := nofun
    obtain ⟨rfl, hplace⟩ := fragmentAt_of_mem_pendingRun hrun hleft hright hf
    exact ⟨front, [], rfl, hplace⟩
  | cons c t ih =>
    rw [fragmentsFrom] at hf
    split at hf
    · rename_i hc
      rcases List.mem_append.mp hf with hf | hf
      · rcases List.mem_append.mp hf with hf | hf
        · have hright : ∀ d ∈ (c :: t).head?, isWide d = true := by simpa using hc
          obtain ⟨rfl, hplace⟩ := fragmentAt_of_mem_pendingRun hrun hleft hright hf
          exact ⟨front, c :: t, rfl, hplace⟩
        · cases t with
          | nil => cases hf
          | cons d t =>
            obtain ⟨hd, hf⟩ : isWide d = true ∧ f = [c, d] := by simpa [widePair] using hf
            exact ⟨front ++ run, t, by simp [hf], hf ▸ .pair hc hd⟩
      · have hleft : ∀ d ∈ (front ++ run ++ [c]).getLast?, isWide d = true := by simpa using hc
        obtain ⟨before, after, htext, hplace⟩ := ih (List.forall_mem_nil _) hleft hf
        exact ⟨before, after, by simpa using htext, hplace⟩
    · rename_i hc
      have hnarrow : ∀ d ∈ run ++ [c], isWide d = false :=
        List.forall_mem_append.mpr ⟨hrun, List.forall_mem_singleton.mpr (Bool.eq_false_iff.mpr hc)⟩
      obtain ⟨before, after, htext, hplace⟩ := ih hnarrow hleft hf
      exact ⟨before, after, by simpa using htext, hplace⟩

/-- The fragments of a text are what stands at the places of fragments. -/
theorem mem_fragments_iff {subterm fragment : String} : fragment ∈ fragments subterm ↔
    ∃ front behind : String, subterm = front ++ fragment ++ behind ∧
      FragmentAt front.toList fragment.toList behind.toList := by
  rw [fragments, List.mem_map]
  constructor
  · rintro ⟨f, hf, rfl⟩
    have hleft : ∀ c ∈ ([] : List Char).getLast?, isWide c = true := nofun
    obtain ⟨before, after, htext, hplace⟩ := exists_fragmentAt_of_mem (List.forall_mem_nil _) hleft hf
    refine ⟨String.ofList before, String.ofList after, ?_, by simpa using hplace⟩
    rw [← String.ofList_append, ← String.ofList_append, ← htext]
    simp
  · rintro ⟨front, behind, rfl, hplace⟩
    obtain ⟨before, after, heq⟩ := hplace.exists_fragments_eq
    refine ⟨fragment.toList, ?_, String.ofList_toList⟩
    rw [String.toList_append, String.toList_append, heq]
    exact List.mem_append_right _ List.mem_cons_self

end Fragments

theorem mem_leaveOneOut_iff {α : Type} {xs : List α} {p : α × List α} :
    p ∈ leaveOneOut xs ↔ ∃ before after, xs = before ++ p.1 :: after ∧ p.2 = before ++ after := by
  induction xs generalizing p with
  | nil => simp [leaveOneOut]
  | cons x rest ih =>
    rw [leaveOneOut, List.mem_cons, List.mem_map]
    constructor
    · rintro (rfl | ⟨q, hq, rfl⟩)
      · exact ⟨[], rest, rfl, rfl⟩
      · obtain ⟨before, after, hrest, hkept⟩ := ih.mp hq
        exact ⟨x :: before, after, by simp [hrest], by simp [hkept]⟩
    · rintro ⟨before, after, hxs, hkept⟩
      cases before with
      | nil =>
        obtain ⟨rfl, rfl⟩ := List.cons.inj hxs
        exact .inl (Prod.ext rfl hkept)
      | cons y before =>
        obtain ⟨rfl, hrest⟩ := List.cons.inj hxs
        exact .inr ⟨(p.1, before ++ after), ih.mpr ⟨before, after, hrest, rfl⟩, Prod.ext rfl hkept.symm⟩

/-- The patterns of a sub-term that is expanded: the literal one, and the fragments without a short one. -/
theorem mem_expand_iff {subterm : String} (h : isExpandable subterm = true) {p : Pattern} :
    p ∈ expand subterm ↔ p = .containing subterm ∨ ∃ before f after,
      fragments subterm = before ++ f :: after ∧ f.length ≤ greatestDropped ∧ p = .inOrder (before ++ after) := by
  rw [expand, if_pos h, List.mem_cons]
  simp only [List.mem_map, List.mem_filter, mem_leaveOneOut_iff, decide_eq_true_eq]
  refine or_congr_right ⟨?_, ?_⟩
  · rintro ⟨⟨f, kept⟩, ⟨⟨before, after, hfragments, rfl⟩, hshort⟩, rfl⟩
    exact ⟨before, f, after, hfragments, hshort, rfl⟩
  · rintro ⟨before, f, after, hfragments, hshort, rfl⟩
    exact ⟨(f, before ++ after), ⟨⟨before, after, hfragments, rfl⟩, hshort⟩, rfl⟩

end TermSearch.Query

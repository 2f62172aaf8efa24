import Mathlib.Algebra.Ring.Nat
import Mathlib.Data.List.Induction
import Mathlib.Data.List.Perm.Subperm
import Mathlib.Tactic.ByContra
import TermSearch.Proofs.FragmentPlaces
import TermSearch.Proofs.QueryMeaning

/-! How far the expansion of a sub-term forgives a damaged unit. The pairs of a wide run overlap, while the segments
of a pattern are looked for without overlap. Three wide characters side by side thus have a pair more than a text
with another unit at the place of a fragment can hold. Main statement: at a place of a short fragment every
replacement is forgiven exactly when the sub-term has no three wide characters side by side. -/
namespace TermSearch.Text

/-- The characters in front of `Ā` are narrow. -/
theorem isWide_of_lt {c : Char} (h : c.toNat < 256) : isWide c = false := by
  have hsets : ∀ i ∈ wideAssigned.intervals ++ unassigned.intervals, 256 ≤ i.1 := by decide +kernel
  have hfar : ∀ s : CharSet, (∀ i ∈ s.intervals, 256 ≤ i.1) → s.contains c = false := by
    intro s hs
    refine Bool.eq_false_iff.mpr fun hc => ?_
    obtain ⟨i, hi, hle, -⟩ := CharSet.contains_iff.mp hc
    have := hs i hi
    omega
  rw [isWide, hfar wideAssigned fun i hi => hsets i (List.mem_append_left _ hi),
    hfar unassigned fun i hi => hsets i (List.mem_append_right _ hi)]
  rfl

@[simp] theorem isWide_foldChar (c : Char) : isWide (foldChar c) = isWide c := by
  unfold foldChar
  split
  · rename_i h
    have hc : c.toNat ≤ 90 := h.2
    have hfolded : (Char.ofNat (c.toNat + 32)).toNat = c.toNat + 32 := by
      rw [Char.ofNat, dif_pos (.inl (by omega))]
      rfl
    rw [isWide_of_lt (c := c) (by omega), isWide_of_lt (by omega)]
  · rfl

end TermSearch.Text

namespace TermSearch.Query

open Text (isWide foldChar foldChars)

/-- Whether three wide characters stand side by side, so that two fragments share the one in the middle. -/
def hasWideTriple : List Char → Bool
  | c :: d :: rest => isWide c && isWide d && rest.head?.any isWide || hasWideTriple (d :: rest)
  | _ => false

/-- The number of pairs of adjacent wide characters. -/
def widePairs : List Char → Nat
  | c :: d :: rest => (if isWide c && isWide d then 1 else 0) + widePairs (d :: rest)
  | _ => 0

/-- The greatest number of pairs of adjacent wide characters that share no character. -/
def disjointPairs : List Char → Nat
  | c :: d :: rest => if isWide c && isWide d then disjointPairs rest + 1 else disjointPairs (d :: rest)
  | _ => 0

/-- The number of narrow characters. -/
def narrowChars (s : List Char) : Nat := s.countP fun c => !isWide c

section Measures

variable {s t run : List Char}

theorem disjointPairs_cons (c : Char) (s : List Char) :
    disjointPairs s ≤ disjointPairs (c :: s) ∧ disjointPairs (c :: s) ≤ disjointPairs s + 1 := by
  induction s generalizing c with
  | nil => simp [disjointPairs]
  | cons d s ih =>
    have hs := ih d
    rw [disjointPairs]
    split <;> omega

theorem disjointPairs_le_append (s t : List Char) : disjointPairs t ≤ disjointPairs (s ++ t) := by
  induction s with
  | nil => exact Nat.le_refl _
  | cons c s ih => exact ih.trans (disjointPairs_cons c (s ++ t)).1

theorem disjointPairs_append (s t : List Char) :
    disjointPairs s + disjointPairs t ≤ disjointPairs (s ++ t) := by
  fun_induction disjointPairs s with
  | case1 c d rest hwide ih =>
    rw [List.cons_append, List.cons_append, disjointPairs, if_pos hwide]
    omega
  | case2 c d rest hwide ih =>
    rw [List.cons_append, List.cons_append, disjointPairs, if_neg hwide]
    exact ih
  | case3 s hs =>
    rw [Nat.zero_add]
    exact disjointPairs_le_append s t

/-- Disjoint pairs are among the adjacent ones, and three wide characters side by side have a pair to spare. -/
theorem disjointPairs_le (s : List Char) :
    disjointPairs s ≤ widePairs s ∧ (hasWideTriple s = true → disjointPairs s < widePairs s) := by
  fun_induction disjointPairs s with
  | case1 c d rest hwide ih =>
    rw [widePairs, if_pos hwide, hasWideTriple, hwide, Bool.true_and]
    cases rest with
    | nil => simp [widePairs, disjointPairs, hasWideTriple]
    | cons e rest =>
      rw [widePairs]
      grind [hasWideTriple]
  | case2 c d rest hwide ih =>
    rw [widePairs, if_neg hwide, Nat.zero_add, hasWideTriple, Bool.eq_false_iff.mpr hwide]
    exact ih
  | case3 s hs =>
    refine ⟨Nat.zero_le _, fun h => ?_⟩
    unfold hasWideTriple at h
    split at h
    · exact absurd rfl (hs _ _ _)
    · cases h

theorem widePairs_cons (c : Char) (s : List Char) :
    widePairs (c :: s) = (if isWide c && s.head?.any isWide then 1 else 0) + widePairs s := by
  cases s with
  | nil => simp [widePairs]
  | cons d s => rfl

theorem disjointPairs_of_narrow (h : ∀ c ∈ s, isWide c = false) : disjointPairs s = 0 := by
  have hpairs : widePairs s = 0 := by
    induction s with
    | nil => rfl
    | cons c s ih =>
      obtain ⟨hc, hs⟩ := List.forall_mem_cons.mp h
      rw [widePairs_cons, hc, ih hs]
      rfl
  have := (disjointPairs_le s).1
  omega

/-- Each pair of adjacent wide characters is a fragment. -/
theorem sum_disjointPairs_fragmentsFrom (hrun : ∀ c ∈ run, isWide c = false) (s : List Char) :
    ((fragmentsFrom run s).map disjointPairs).sum = widePairs s := by
  have hpending : ∀ {run : List Char}, (∀ c ∈ run, isWide c = false) →
      ((pendingRun run).map disjointPairs).sum = 0 := by
    intro run hrun
    unfold pendingRun
    split
    · rfl
    · simpa using disjointPairs_of_narrow hrun
  induction s generalizing run with
  | nil => exact hpending hrun
  | cons c s ih =>
    rw [fragmentsFrom, widePairs_cons]
    split
    · rename_i hc
      have hpair : ((widePair c s).map disjointPairs).sum = if s.head?.any isWide then 1 else 0 := by
        cases s with
        | nil => rfl
        | cons d s => cases hd : isWide d <;> simp [widePair, disjointPairs, hc, hd]
      rw [List.map_append, List.map_append, List.sum_append, List.sum_append, hpending hrun, hpair,
        ih (List.forall_mem_nil _), hc, Bool.true_and, Nat.zero_add]
    · rename_i hc
      have hnarrow : ∀ d ∈ run ++ [c], isWide d = false :=
        List.forall_mem_append.mpr ⟨hrun, List.forall_mem_singleton.mpr (Bool.eq_false_iff.mpr hc)⟩
      rw [ih hnarrow, Bool.eq_false_iff.mpr hc]
      simp

/-- Each narrow character is in one fragment. -/
theorem sum_narrowChars_fragmentsFrom (run s : List Char) :
    ((fragmentsFrom run s).map narrowChars).sum = narrowChars (run ++ s) := by
  have hpending (run : List Char) : ((pendingRun run).map narrowChars).sum = narrowChars run := by
    cases run <;> simp [pendingRun, narrowChars]
  induction s generalizing run with
  | nil => rw [fragmentsFrom, hpending, List.append_nil]
  | cons c s ih =>
    rw [fragmentsFrom]
    split
    · rename_i hc
      have hpair : ((widePair c s).map narrowChars).sum = 0 := by
        cases s with
        | nil => rfl
        | cons d s => cases hd : isWide d <;> simp [widePair, narrowChars, hc, hd]
      rw [List.map_append, List.map_append, List.sum_append, List.sum_append, hpending, hpair, ih]
      simp [narrowChars, hc]
    · rw [ih, List.append_assoc, List.singleton_append]

/-- A measure that does not shrink when texts are joined bounds the sum over segments that occur in a text. -/
theorem OccurInOrder.sum_le {m : List Char → Nat} (hm : ∀ x y, m x + m y ≤ m (x ++ y))
    {segments : List (List Char)} {s : List Char} (h : OccurInOrder segments s) : (segments.map m).sum ≤ m s := by
  induction segments generalizing s with
  | nil => exact Nat.zero_le _
  | cons segment segments ih =>
    obtain ⟨gap, behind, rfl, hrest⟩ := h
    have hbehind := ih hrest
    have hfront := hm gap segment
    have hall := hm (gap ++ segment) behind
    rw [List.map_cons, List.sum_cons]
    omega

@[simp] theorem narrowChars_foldChars (s : List Char) : narrowChars (foldChars s) = narrowChars s := by
  simp [narrowChars, foldChars, List.countP_map, Function.comp_def]

@[simp] theorem disjointPairs_foldChars (s : List Char) : disjointPairs (foldChars s) = disjointPairs s := by
  fun_induction disjointPairs s with
  | case1 c d rest hwide ih => simpa [disjointPairs, hwide] using ih
  | case2 c d rest hwide ih => simpa [disjointPairs, hwide] using ih
  | case3 s hs =>
    rcases s with _ | ⟨c, _ | ⟨d, rest⟩⟩
    · rfl
    · rfl
    · exact absurd rfl (hs c d rest)

theorem hasWideTriple_iff {s : List Char} : hasWideTriple s = true ↔
    ∃ c d e, isWide c = true ∧ isWide d = true ∧ isWide e = true ∧ [c, d, e] <:+: s := by
  fun_induction hasWideTriple s with
  | case1 c d rest ih =>
    rw [Bool.or_eq_true, ih]
    constructor
    · rintro (h | ⟨c', d', e, hc, hd, he, hpart⟩)
      · cases rest with
        | nil => simp at h
        | cons e rest =>
          obtain ⟨⟨hc, hd⟩, he⟩ : (isWide c = true ∧ isWide d = true) ∧ isWide e = true := by simpa using h
          exact ⟨c, d, e, hc, hd, he, [], rest, rfl⟩
      · exact ⟨c', d', e, hc, hd, he, List.infix_cons hpart⟩
    · rintro ⟨c', d', e, hc, hd, he, hpart⟩
      rcases List.infix_cons_iff.mp hpart with ⟨behind, hprefix⟩ | hpart
      · obtain ⟨rfl, rfl, rfl⟩ : c' = c ∧ d' = d ∧ e :: behind = rest := by simpa using hprefix
        exact .inl (by simp [hc, hd, he])
      · exact .inr ⟨c', d', e, hc, hd, he, hpart⟩
  | case2 s hs =>
    refine ⟨nofun, ?_⟩
    rintro ⟨c, d, e, -, -, -, front, behind, rfl⟩
    rcases front with _ | ⟨_, _ | ⟨_, _⟩⟩ <;> exact absurd rfl (hs _ _ _)

theorem hasWideTriple_eq_false_of_part (h : s <:+: t) (ht : hasWideTriple t = false) : hasWideTriple s = false := by
  refine Bool.eq_false_iff.mpr fun hs => Bool.eq_false_iff.mp ht ?_
  obtain ⟨c, d, e, hc, hd, he, hpart⟩ := hasWideTriple_iff.mp hs
  exact hasWideTriple_iff.mpr ⟨c, d, e, hc, hd, he, hpart.trans h⟩

/-- Behind two wide characters there is no third one, where no three stand side by side. -/
theorem isWide_eq_false_of_hasWideTriple {c d : Char} (hfree : hasWideTriple (c :: d :: t) = false)
    (hc : isWide c = true) (hd : isWide d = true) : ∀ e ∈ t.head?, isWide e = false := by
  intro e he
  cases hwide : isWide e with
  | false => rfl
  | true =>
    rw [hasWideTriple, hc, hd, Option.mem_def.mp he, Option.any_some, hwide] at hfree
    cases hfree

/-- Without three wide characters side by side no two fragments overlap. -/
theorem occurInOrder_fragmentsFrom (run : List Char) (hfree : hasWideTriple t = false) :
    OccurInOrder (fragmentsFrom run t) (run ++ t) := by
  have hpending (run : List Char) : OccurInOrder (pendingRun run) run := by
    cases run with
    | nil => trivial
    | cons c run => exact occurInOrder_singleton.mpr (List.infix_refl _)
  -- a pair takes two characters at once
  induction t using List.twoStepInduction generalizing run with
  | nil => simpa [fragmentsFrom] using hpending run
  | singleton c =>
    cases hc : isWide c with
    | false => simpa [fragmentsFrom, hc] using hpending (run ++ [c])
    | true => simpa [fragmentsFrom, hc, widePair, pendingRun] using (hpending run).append (occurInOrder_nil [c])
  | cons_cons c d t afterPair afterFirst =>
    have hrest : hasWideTriple (d :: t) = false :=
      hasWideTriple_eq_false_of_part (List.suffix_cons c (d :: t)).isInfix hfree
    cases hc : isWide c with
    | false =>
      rw [fragmentsFrom, hc, if_neg Bool.false_ne_true]
      simpa using afterFirst d (run ++ [c]) hrest
    | true =>
      rw [fragmentsFrom, if_pos hc, List.append_assoc]
      refine (hpending run).append ?_
      cases hd : isWide d with
      | false =>
        rw [widePair, hd, if_neg Bool.false_ne_true]
        exact (afterFirst d [] hrest).of_suffix (List.suffix_cons c (d :: t))
      | true =>
        have hpair := widePair_of_head? (isWide_eq_false_of_hasWideTriple hfree hc hd) d
        have htail := afterPair [] (hasWideTriple_eq_false_of_part (List.suffix_cons d t).isInfix hrest)
        rw [fragmentsFrom, if_pos hd, hpair, widePair, hd, if_pos rfl]
        exact (occurInOrder_singleton.mpr (List.infix_refl [c, d])).append htail

end Measures

section Damage

variable {front fragment behind : String}

/-- A character in no pattern of a sub-term parts a text, and no measure of a pattern that is found there exceeds
that of the two parts. -/
theorem sum_le_of_accepts_singleton {m : List Char → Nat} (hm : ∀ x y, m x + m y ≤ m (x ++ y))
    (hfold : ∀ s, m (foldChars s) = m s) {z : Char} {segments : List String}
    (hz : ∀ segment ∈ segments, foldChar z ∉ foldChars segment.toList)
    (h : (Pattern.inOrder segments).accepts (front ++ String.singleton z ++ behind) = true) :
    ((segments.map String.toList).map m).sum ≤ m front.toList + m behind.toList := by
  rw [Pattern.accepts_inOrder_iff, String.toList_append, String.toList_append, List.append_assoc, Text.foldChars_append,
    String.toList_singleton, List.singleton_append, Text.foldChars_cons] at h
  obtain ⟨left, right, hsegments, hleft, hright⟩ := h.split (by simpa using hz)
  have hsum : ((segments.map String.toList).map m) = (left ++ right).map m := by
    rw [← hsegments, List.map_map, List.map_map]
    exact List.map_congr_left fun segment _ => (hfold segment.toList).symm
  have hfront := hleft.sum_le hm
  have hbehind := hright.sum_le hm
  rw [hfold] at hfront hbehind
  rw [hsum, List.map_append, List.sum_append]
  omega

/-- Some character is not in a text of at most ten characters, whatever its case. -/
theorem exists_foldChar_not_mem {s : String} (h : isExpandable s = true) :
    ∃ z, foldChar z ∉ foldChars s.toList := by
  by_contra! hall
  have hdistinct : ("0123456789-".toList.map foldChar).Nodup := by decide +kernel
  have hsub : "0123456789-".toList.map foldChar ⊆ foldChars s.toList := by
    intro c hc
    obtain ⟨z, -, rfl⟩ := List.mem_map.mp hc
    exact hall z
  have hlength := (hdistinct.subperm hsub).length_le
  have hshort : s.length ≤ 10 := by
    rw [isExpandable, Bool.and_eq_true, decide_eq_true_eq, decide_eq_true_eq] at h
    exact h.2
  have hdigits : ("0123456789-".toList.map foldChar).length = 11 := by decide +kernel
  rw [hdigits, Text.length_foldChars, String.length_toList] at hlength
  omega

/-- What a fragment is worth: a run has narrow characters and no pair of wide ones, a pair the other way round. -/
theorem FragmentAt.measures {front f behind : List Char} (h : FragmentAt front f behind) :
    (0 < narrowChars f ∧ disjointPairs f = 0) ∨ (narrowChars f = 0 ∧ disjointPairs f = 1) := by
  cases h with
  | run hne hrun hleft hright =>
    obtain ⟨c, hc⟩ := List.exists_mem_of_ne_nil f hne
    exact .inl ⟨List.countP_pos_iff.mpr ⟨c, hc, by simp [hrun c hc]⟩, disjointPairs_of_narrow hrun⟩
  | pair hc hd => exact .inr ⟨by simp [narrowChars, hc, hd], by simp [disjointPairs, hc, hd]⟩

theorem FragmentAt.ne_nil {front f behind : List Char} (h : FragmentAt front f behind) : f ≠ [] := by
  cases h with
  | run hne hrun hleft hright => exact hne
  | pair hc hd => exact List.cons_ne_nil _ _

/-- Where no three wide characters stand side by side, a fragment leaves those on its two sides as they are. -/
theorem FragmentAt.fragmentsFrom_eq {front f behind : List Char} (h : FragmentAt front f behind)
    (hfree : hasWideTriple (front ++ f ++ behind) = false) :
    fragmentsFrom [] (front ++ f ++ behind) = fragmentsFrom [] front ++ f :: fragmentsFrom [] behind := by
  cases h with
  | run hne hrun hleft hright => exact fragmentsFrom_run hne hrun hleft hright
  | pair hc hd =>
    rename_i c d
    have hpart {e₁ e₂ e₃ : Char} (h : [e₁, e₂, e₃] <:+: front ++ [c, d] ++ behind) :
        ¬ (isWide e₁ = true ∧ isWide e₂ = true ∧ isWide e₃ = true) := fun hwide =>
      Bool.eq_false_iff.mp hfree (hasWideTriple_iff.mpr ⟨e₁, e₂, e₃, hwide.1, hwide.2.1, hwide.2.2, h⟩)
    have hleft : ∀ e ∈ front.getLast?, isWide e = false := by
      intro e he
      obtain ⟨rest, rfl⟩ := List.getLast?_eq_some_iff.mp he
      exact Bool.eq_false_iff.mpr fun hwide => hpart ⟨rest, behind, by simp⟩ ⟨hwide, hc, hd⟩
    have hright : ∀ e ∈ behind.head?, isWide e = false := by
      intro e he
      obtain ⟨rest, rfl⟩ := List.head?_eq_some_iff.mp he
      exact Bool.eq_false_iff.mpr fun hwide => hpart ⟨front, rest, by simp⟩ ⟨hc, hd, hwide⟩
    rw [fragmentsFrom_pair hc hd, fragmentsFrom_append_singleton hc hleft, fragmentsFrom.eq_2 [] d, if_pos hd,
      widePair_of_head? hright]
    rfl

theorem map_toList_fragments (subterm : String) :
    (fragments subterm).map String.toList = fragmentsFrom [] subterm.toList := by
  simp [fragments, Function.comp_def]

theorem foldChar_not_mem_of_mem_fragments {subterm f : String} {z : Char} (hz : foldChar z ∉ foldChars subterm.toList)
    (hf : f ∈ fragments subterm) : foldChar z ∉ foldChars f.toList := by
  obtain ⟨front, behind, rfl, -⟩ := mem_fragments_iff.mp hf
  simp only [String.toList_append, Text.foldChars_append, List.mem_append, not_or] at hz
  exact hz.1.2

/-- Where some character is in no pattern of a sub-term and stands for a fragment, the sub-term is only found without
three wide characters side by side. -/
theorem hasWideTriple_of_accepts_singleton (hexpanded : isExpandable (front ++ fragment ++ behind) = true)
    (hplace : FragmentAt front.toList fragment.toList behind.toList) {z : Char}
    (hz : foldChar z ∉ foldChars (front ++ fragment ++ behind).toList) {p : Pattern}
    (hp : p ∈ expand (front ++ fragment ++ behind))
    (haccepts : p.accepts (front ++ String.singleton z ++ behind) = true) :
    hasWideTriple (front ++ fragment ++ behind).toList = false := by
  have hchars : (front ++ fragment ++ behind).toList = front.toList ++ fragment.toList ++ behind.toList := by
    rw [String.toList_append, String.toList_append]
  rcases (mem_expand_iff hexpanded).mp hp with rfl | ⟨before, kept, after, hfragments, -, rfl⟩
  · -- the sub-term is longer than both parts together
    have hlength := sum_le_of_accepts_singleton (m := List.length) (fun _ _ => List.length_append.ge)
      Text.length_foldChars (List.forall_mem_singleton.mpr hz) haccepts
    have hne := List.length_pos_iff.mpr hplace.ne_nil
    rw [List.map_singleton, List.map_singleton, List.sum_singleton, hchars, List.length_append, List.length_append]
      at hlength
    omega
  · have hsegments : ∀ f ∈ before ++ after, foldChar z ∉ foldChars f.toList := by
      intro f hf
      refine foldChar_not_mem_of_mem_fragments hz (hfragments ▸ ?_)
      exact List.mem_append.mpr ((List.mem_append.mp hf).imp_right (List.mem_cons_of_mem kept))
    obtain ⟨_, _, -, hdropped⟩ := mem_fragments_iff.mp (hfragments ▸ List.mem_append_right before List.mem_cons_self)
    -- a measure of all fragments is that of the dropped one and of the others
    have hsum (m : List Char → Nat) : ((fragmentsFrom [] (front ++ fragment ++ behind).toList).map m).sum =
        m kept.toList + (((before ++ after).map String.toList).map m).sum := by
      rw [← map_toList_fragments, hfragments]
      simp only [List.map_append, List.map_cons, List.sum_append, List.sum_cons]
      omega
    have hnarrow := sum_le_of_accepts_singleton (fun x y => (List.countP_append ..).ge) narrowChars_foldChars
      hsegments haccepts
    have hpairs := sum_le_of_accepts_singleton disjointPairs_append disjointPairs_foldChars hsegments haccepts
    have hallNarrow := sum_narrowChars_fragmentsFrom [] (front ++ fragment ++ behind).toList
    have hallPairs := sum_disjointPairs_fragmentsFrom (List.forall_mem_nil _) (front ++ fragment ++ behind).toList
    have hsplit : disjointPairs front.toList + disjointPairs fragment.toList + disjointPairs behind.toList ≤
        disjointPairs (front ++ fragment ++ behind).toList := by
      have hfront := disjointPairs_append front.toList fragment.toList
      have hall := disjointPairs_append (front.toList ++ fragment.toList) behind.toList
      rw [hchars]
      omega
    have hcount : narrowChars (front ++ fragment ++ behind).toList =
        narrowChars front.toList + narrowChars fragment.toList + narrowChars behind.toList := by
      rw [hchars, narrowChars, List.countP_append, List.countP_append]
      rfl
    have hworth := hplace.measures
    have hworthDropped := hdropped.measures
    refine Bool.eq_false_iff.mpr fun htriple => ?_
    have hspare := (disjointPairs_le _).2 htriple
    rw [hsum] at hallNarrow hallPairs
    rw [List.nil_append] at hallNarrow
    omega

/-- The fragments of the two sides are found around any replacement. -/
theorem accepts_of_hasWideTriple_eq_false (hexpanded : isExpandable (front ++ fragment ++ behind) = true)
    (hplace : FragmentAt front.toList fragment.toList behind.toList) (hshort : fragment.length ≤ greatestDropped)
    (hfree : hasWideTriple (front ++ fragment ++ behind).toList = false) (replacement : String) :
    ∃ p ∈ expand (front ++ fragment ++ behind), p.accepts (front ++ replacement ++ behind) = true := by
  have hfragments : fragments (front ++ fragment ++ behind) = fragments front ++ fragment :: fragments behind := by
    rw [String.toList_append, String.toList_append] at hfree
    rw [fragments, String.toList_append, String.toList_append, hplace.fragmentsFrom_eq hfree]
    simp [fragments]
  have hside {part : String} (h : hasWideTriple part.toList = false) :
      OccurInOrder ((fragments part).map fun f => foldChars f.toList) (foldChars part.toList) := by
    have := (occurInOrder_fragmentsFrom [] h).foldChars
    rwa [← map_toList_fragments, List.map_map] at this
  rw [String.toList_append, String.toList_append] at hfree
  refine ⟨_, (mem_expand_iff hexpanded).mpr (.inr ⟨_, _, _, hfragments, hshort, rfl⟩), ?_⟩
  rw [Pattern.accepts_inOrder_iff, List.map_append, String.toList_append, String.toList_append, List.append_assoc,
    Text.foldChars_append, Text.foldChars_append]
  have hfront := hside (hasWideTriple_eq_false_of_part (List.infix_append' [] _ _) (by simpa using hfree))
  have hbehind := hside (hasWideTriple_eq_false_of_part (List.suffix_append _ _).isInfix hfree)
  exact hfront.append (hbehind.of_suffix (List.suffix_append _ _))

/-- At a place of a short fragment every replacement is forgiven exactly when the sub-term has no three wide
characters side by side. -/
theorem forgives_iff_hasWideTriple (hexpanded : isExpandable (front ++ fragment ++ behind) = true)
    (hplace : FragmentAt front.toList fragment.toList behind.toList) (hshort : fragment.length ≤ greatestDropped) :
    (∀ replacement : String, ∃ p ∈ expand (front ++ fragment ++ behind),
        p.accepts (front ++ replacement ++ behind) = true) ↔
      hasWideTriple (front ++ fragment ++ behind).toList = false := by
  constructor
  · intro hforgives
    obtain ⟨z, hz⟩ := exists_foldChar_not_mem hexpanded
    obtain ⟨p, hp, haccepts⟩ := hforgives (String.singleton z)
    exact hasWideTriple_of_accepts_singleton hexpanded hplace hz hp haccepts
  · exact accepts_of_hasWideTriple_eq_false hexpanded hplace hshort

theorem forgives_damaged_pair : isExpandable ("ab" ++ "東京" ++ "cd") = true ∧
    FragmentAt "ab".toList "東京".toList "cd".toList ∧ "東京".length ≤ greatestDropped ∧
    ∀ replacement : String, ∃ p ∈ expand ("ab" ++ "東京" ++ "cd"),
      p.accepts ("ab" ++ replacement ++ "cd") = true := by
  have hexpanded : isExpandable ("ab" ++ "東京" ++ "cd") = true := by decide +kernel
  have hplace : FragmentAt ['a', 'b'] ['東', '京'] ['c', 'd'] := .pair (by decide +kernel) (by decide +kernel)
  have hshort : "東京".length ≤ greatestDropped := by decide +kernel
  exact ⟨hexpanded, hplace, hshort, (forgives_iff_hasWideTriple hexpanded hplace hshort).mpr (by decide +kernel)⟩

/-- With the first two of five wide characters garbled, the second pair is damaged as well. -/
theorem exists_damage_without_match : isExpandable ("" ++ "東京" ++ "タワー") = true ∧
    FragmentAt "".toList "東京".toList "タワー".toList ∧ "東京".length ≤ greatestDropped ∧
    ∀ p ∈ expand ("" ++ "東京" ++ "タワー"), p.accepts ("" ++ "東涼" ++ "タワー") = false := by
  have hplace : FragmentAt [] ['東', '京'] ['タ', 'ワ', 'ー'] := .pair (by decide +kernel) (by decide +kernel)
  exact ⟨by decide +kernel, hplace, by decide +kernel, by decide +kernel⟩

end Damage

end TermSearch.Query

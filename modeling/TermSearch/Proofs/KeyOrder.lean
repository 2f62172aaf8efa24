import Mathlib.Data.List.Pairwise
import TermSearch.Order

/-! Which of two items stands first in a list sorted by keys. Items with different keys stand in the order of their
keys, whatever the order of the list was. -/
namespace TermSearch

@[simp] theorem keyLe_cons_self (x : Int) (as bs : List Int) : keyLe (x :: as) (x :: bs) = keyLe as bs := by
  simp [keyLe]

theorem keyLe_cons_iff {a b : Int} {as bs : List Int} :
    keyLe (a :: as) (b :: bs) = true ↔ a < b ∨ a = b ∧ keyLe as bs = true := by
  simp [keyLe]

theorem keyLe_cons_congr {as bs cs ds : List Int} (h : keyLe as bs = keyLe cs ds) (x y : Int) :
    keyLe (x :: as) (y :: bs) = keyLe (x :: cs) (y :: ds) := by
  simp [keyLe, h]

theorem keyLe_antisymm {a b : List Int} (hab : keyLe a b = true) (hba : keyLe b a = true) : a = b := by
  induction a generalizing b with
  | nil =>
    cases b with
    | nil => rfl
    | cons y bs => simp [keyLe] at hba
  | cons x as ih =>
    cases b with
    | nil => simp [keyLe] at hab
    | cons y bs =>
      simp only [keyLe, Bool.or_eq_true, Bool.and_eq_true, decide_eq_true_eq, beq_iff_eq] at hab hba
      rcases hab with hlt | ⟨rfl, htail⟩
      · omega
      · have hback : keyLe bs as = true := hba.resolve_left (Int.lt_irrefl x) |>.2
        rw [ih htail hback]

/-- Numbers in a key may be scaled. -/
theorem keyLe_scale {k : Int} (hk : 0 < k) (x y : Int) (as bs : List Int) :
    keyLe (x * k :: as) (y * k :: bs) = keyLe (x :: as) (y :: bs) := by
  have hlt : x * k < y * k ↔ x < y := Int.mul_lt_mul_right hk
  have heq : x * k = y * k ↔ x = y := Int.mul_eq_mul_right_iff (Int.ne_of_gt hk)
  simp only [keyLe, hlt, Bool.beq_eq_decide_eq, heq]

variable {α β : Type}

/-- Sorting by keys that compare alike gives the same order. -/
theorem map_sortByKey {f : α → β} {key : α → List Int} {imageKey : β → List Int} {xs : List α}
    (h : ∀ a ∈ xs, ∀ b ∈ xs, keyLe (key a) (key b) = keyLe (imageKey (f a)) (imageKey (f b))) :
    (sortByKey key xs).map f = sortByKey imageKey (xs.map f) := List.map_mergeSort h

theorem pair_sublist_or {xs : List α} {x y : α} (hx : x ∈ xs) (hy : y ∈ xs) (hne : x ≠ y) :
    [x, y].Sublist xs ∨ [y, x].Sublist xs := by
  obtain ⟨s, r, rfl⟩ := List.append_of_mem hx
  rcases List.mem_append.mp hy with hs | hr
  · refine Or.inr ?_
    have hhead : [y].Sublist s := List.singleton_sublist.mpr hs
    exact hhead.append (List.singleton_sublist.mpr List.mem_cons_self)
  · refine Or.inl (List.sublist_append_of_sublist_right ?_)
    refine List.Sublist.cons_cons x (List.singleton_sublist.mpr ?_)
    exact (List.mem_cons.mp hr).resolve_left (Ne.symm hne)

/-- Of two items with different keys the one with the lower key stands first. -/
theorem pair_sublist_sortByKey_iff {key : α → List Int} {xs : List α} {x y : α} (hx : x ∈ xs) (hy : y ∈ xs)
    (hne : key x ≠ key y) : [x, y].Sublist (sortByKey key xs) ↔ keyLe (key x) (key y) = true := by
  have hsorted {a b : α} : [a, b].Sublist (sortByKey key xs) → keyLe (key a) (key b) = true :=
    List.pairwise_iff_forall_sublist.mp (sortByKey_sorted key xs)
  constructor
  · exact fun h => hsorted h
  · intro hle
    have hxy : x ≠ y := fun h => hne (congrArg key h)
    rcases pair_sublist_or (mem_sortByKey.mpr hx) (mem_sortByKey.mpr hy) hxy with h | h
    · exact h
    · exact absurd (keyLe_antisymm hle (hsorted h)) hne

end TermSearch

/-! Ordering by keys of several integers, compared from the first on. -/
namespace TermSearch

/-- Whether a key comes before another one or equals it. -/
def keyLe : List Int → List Int → Bool
  | a :: as, b :: bs => a < b || (a == b && keyLe as bs)
  | [], _ => true
  | _ :: _, [] => false

theorem keyLe_total (a b : List Int) : keyLe a b || keyLe b a := by
  induction a generalizing b with
  | nil => cases b <;> simp [keyLe]
  | cons x as ih =>
    cases b with
    | nil => simp [keyLe]
    | cons y bs =>
      have h := ih bs
      simp only [keyLe, Bool.or_eq_true, Bool.and_eq_true, decide_eq_true_eq, beq_iff_eq] at *
      rcases Int.lt_trichotomy x y with h1 | h1 | h1
      · exact Or.inl (Or.inl h1)
      · subst h1
        rcases h with h | h
        · exact Or.inl (Or.inr ⟨rfl, h⟩)
        · exact Or.inr (Or.inr ⟨rfl, h⟩)
      · exact Or.inr (Or.inl h1)

theorem keyLe_trans {a b c : List Int} (hab : keyLe a b) (hbc : keyLe b c) : keyLe a c := by
  induction a generalizing b c with
  | nil => cases c <;> rfl
  | cons x as ih =>
    cases b with
    | nil => simp [keyLe] at hab
    | cons y bs =>
      cases c with
      | nil => simp [keyLe] at hbc
      | cons z cs =>
        simp only [keyLe, Bool.or_eq_true, Bool.and_eq_true, decide_eq_true_eq, beq_iff_eq] at *
        rcases hab with h1 | ⟨h1, h1'⟩ <;> rcases hbc with h2 | ⟨h2, h2'⟩
        · exact Or.inl (by omega)
        · exact Or.inl (by omega)
        · exact Or.inl (by omega)
        · exact Or.inr ⟨by omega, ih h1' h2'⟩

/-- A list sorted by a key; items of one key keep their order. -/
def sortByKey {α : Type} (key : α → List Int) (xs : List α) : List α :=
  xs.mergeSort fun a b => keyLe (key a) (key b)

theorem sortByKey_perm {α : Type} (key : α → List Int) (xs : List α) :
    (sortByKey key xs).Perm xs := List.mergeSort_perm _ _

@[simp] theorem mem_sortByKey {α : Type} {key : α → List Int} {xs : List α} {x : α} :
    x ∈ sortByKey key xs ↔ x ∈ xs := (sortByKey_perm key xs).mem_iff

theorem sortByKey_sorted {α : Type} (key : α → List Int) (xs : List α) :
    (sortByKey key xs).Pairwise fun a b => keyLe (key a) (key b) :=
  List.pairwise_mergeSort
    (fun a b c (hab : keyLe (key a) (key b)) (hbc : keyLe (key b) (key c)) => keyLe_trans hab hbc)
    (fun a b => keyLe_total (key a) (key b)) xs

end TermSearch

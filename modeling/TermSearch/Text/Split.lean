/-! Splitting a text at the characters of a class. -/
namespace TermSearch.Text

/-- The stretches of a text between single characters of a class, empty ones included. -/
def splitWhen (p : Char → Bool) : List Char → List (List Char)
  | [] => [[]]
  | c :: rest =>
    if p c then [] :: splitWhen p rest
    else
      match splitWhen p rest with
      | [] => [[c]]
      | first :: others => (c :: first) :: others

theorem splitWhen_ne_nil (p : Char → Bool) (s : List Char) : splitWhen p s ≠ [] := by
  cases s with
  | nil => simp [splitWhen]
  | cons c rest => unfold splitWhen; split
                   · simp
                   · split <;> simp

@[simp] theorem splitWhen_nil (p : Char → Bool) : splitWhen p [] = [[]] := rfl

theorem splitWhen_cons_of_pos {p : Char → Bool} {c : Char} (h : p c = true) (rest : List Char) :
    splitWhen p (c :: rest) = [] :: splitWhen p rest := by simp [splitWhen, h]

theorem splitWhen_of_none {p : Char → Bool} {s : List Char} (h : ∀ c ∈ s, p c = false) :
    splitWhen p s = [s] := by
  induction s with
  | nil => rfl
  | cons c rest ih =>
    have hc := h c (by simp)
    have hr := ih fun d hd => h d (by simp [hd])
    simp [splitWhen, hc, hr]

/-- A character of the class cuts a text into the stretches in front of it and those behind it. -/
theorem splitWhen_append_cons {p : Char → Bool} {c : Char} (h : p c = true) (s rest : List Char) :
    splitWhen p (s ++ c :: rest) = splitWhen p s ++ splitWhen p rest := by
  induction s with
  | nil => exact splitWhen_cons_of_pos h rest
  | cons d s ih =>
    rw [List.cons_append, splitWhen, splitWhen, ih]
    split
    · rfl
    · cases hs : splitWhen p s with
      | nil => exact absurd hs (splitWhen_ne_nil p s)
      | cons first others => rfl

/-- Every character of a text belongs to the class or stands in a stretch. -/
theorem mem_splitWhen {p : Char → Bool} {c : Char} {s : List Char} (h : c ∈ s) :
    p c = true ∨ ∃ piece ∈ splitWhen p s, c ∈ piece := by
  induction s with
  | nil => cases h
  | cons d s ih =>
    by_cases hd : p d = true
    · rw [splitWhen_cons_of_pos hd]
      rcases List.mem_cons.mp h with rfl | h
      · exact Or.inl hd
      · exact (ih h).imp_right fun ⟨piece, hpiece, hc⟩ => ⟨piece, List.mem_cons_of_mem _ hpiece, hc⟩
    · rw [splitWhen, if_neg hd]
      cases hs : splitWhen p s with
      | nil => exact absurd hs (splitWhen_ne_nil p s)
      | cons first others =>
        rw [hs] at ih
        rcases List.mem_cons.mp h with rfl | h
        · exact Or.inr ⟨_, List.mem_cons_self, List.mem_cons_self⟩
        · refine (ih h).imp_right ?_
          rintro ⟨piece, hpiece, hc⟩
          rcases List.mem_cons.mp hpiece with rfl | hpiece
          · exact ⟨_, List.mem_cons_self, List.mem_cons_of_mem _ hc⟩
          · exact ⟨piece, List.mem_cons_of_mem _ hpiece, hc⟩

end TermSearch.Text

import Mathlib.Data.Bool.Basic
import Mathlib.Data.List.Forall2

/-! Operations that may fail, one after another and over the items of a list. -/
namespace TermSearch

variable {ε α β γ : Type}

/-- Two steps after each other succeed where the first does, and the second on what the first gives. -/
theorem bind_eq_ok_iff {x : Except ε α} {f : α → Except ε β} {b : β} :
    (x >>= f) = .ok b ↔ ∃ a, x = .ok a ∧ f a = .ok b := by
  cases x <;> simp [bind, Except.bind]

/-- Two steps after each other fail where the first does, or the second on what the first gives. -/
theorem bind_eq_error_iff {x : Except ε α} {f : α → Except ε β} {e : ε} :
    (x >>= f) = .error e ↔ x = .error e ∨ ∃ a, x = .ok a ∧ f a = .error e := by
  cases x <;> simp [bind, Except.bind]

variable {f : α → Except ε β}

/-- A run over a list succeeds exactly when every item does, and its results stand in the order of the items. -/
theorem mapM_eq_ok_iff {xs : List α} {ys : List β} :
    xs.mapM f = .ok ys ↔ List.Forall₂ (fun x y => f x = .ok y) xs ys := by
  induction xs generalizing ys with
  | nil =>
    rw [List.mapM_nil, List.forall₂_nil_left_iff]
    exact ⟨fun h => (Except.ok.inj h).symm, fun h => h ▸ rfl⟩
  | cons x xs ih =>
    rw [List.mapM_cons, List.forall₂_cons_left_iff]
    simp only [← ih]
    cases f x with
    | error e => simp [bind, Except.bind]
    | ok y =>
      cases xs.mapM f with
      | error e => simp [bind, Except.bind]
      | ok rest => simp [bind, Except.bind, pure, Except.pure, eq_comm]

theorem mapM_eq_ok_map {g : α → β} {xs : List α} (h : ∀ x ∈ xs, f x = .ok (g x)) : xs.mapM f = .ok (xs.map g) := by
  rw [mapM_eq_ok_iff, List.forall₂_map_right_iff, List.forall₂_same]
  exact h

/-- Where each result is that of a plain function, so are the results of a run over a list. -/
theorem eq_map_of_mapM_eq_ok {g : α → β} {xs : List α} {ys : List β} (h : xs.mapM f = .ok ys)
    (hg : ∀ x y, f x = .ok y → y = g x) : ys = xs.map g := by
  rw [mapM_eq_ok_iff] at h
  induction h with
  | nil => rfl
  | cons hfirst _ ih => rw [List.map_cons, hg _ _ hfirst, ih]

theorem mapM_congr_of_mem {g : α → Except ε β} {xs : List α} (h : ∀ x ∈ xs, f x = g x) : xs.mapM f = xs.mapM g := by
  induction xs with
  | nil => rfl
  | cons x xs ih =>
    have hrest := ih fun y hy => h y (List.mem_cons_of_mem _ hy)
    rw [List.mapM_cons, List.mapM_cons, h x List.mem_cons_self, hrest]

/-- Changing the results behind a run over a list changes those of the items. -/
theorem map_mapM (g : β → γ) (xs : List α) : (xs.mapM f).map (List.map g) = xs.mapM fun x => (f x).map g := by
  induction xs with
  | nil => rfl
  | cons x xs ih =>
    rw [List.mapM_cons, List.mapM_cons, ← ih]
    cases f x with
    | error e => rfl
    | ok y => cases xs.mapM f <;> rfl

/-- Every result of a run over a list is the result of an item. -/
theorem exists_of_mem_mapM {xs : List α} {ys : List β} (h : xs.mapM f = .ok ys) {y : β} (hy : y ∈ ys) :
    ∃ x ∈ xs, f x = .ok y := by
  rw [mapM_eq_ok_iff] at h
  induction h with
  | nil => cases hy
  | @cons x first xs ys hfirst _ ih =>
    rcases List.mem_cons.mp hy with rfl | hrest
    · exact ⟨x, List.mem_cons_self, hfirst⟩
    · obtain ⟨x, hx, hfx⟩ := ih hrest
      exact ⟨x, List.mem_cons_of_mem _ hx, hfx⟩

/-- A run over a list that succeeds has a result for every item. -/
theorem exists_ok_of_mapM {xs : List α} {ys : List β} (h : xs.mapM f = .ok ys) {x : α} (hx : x ∈ xs) :
    ∃ y, f x = .ok y := by
  rw [mapM_eq_ok_iff] at h
  induction h with
  | nil => cases hx
  | @cons first y xs ys hfirst _ ih =>
    rcases List.mem_cons.mp hx with rfl | hrest
    · exact ⟨y, hfirst⟩
    · exact ih hrest

/-- A run over a list fails only where an item fails, and in the same way. -/
theorem exists_of_mapM_eq_error {xs : List α} {e : ε} (h : xs.mapM f = .error e) : ∃ x ∈ xs, f x = .error e := by
  induction xs with
  | nil => cases h
  | cons x xs ih =>
    rw [List.mapM_cons] at h
    cases hx : f x with
    | error e' =>
      rw [hx] at h
      obtain rfl := Except.error.inj h
      exact ⟨x, List.mem_cons_self, hx⟩
    | ok y =>
      have hrest : xs.mapM f = .error e := by
        cases hxs : xs.mapM f with
        | error e' => simpa [hx, hxs, bind, Except.bind] using h
        | ok ys => simp [hx, hxs, bind, Except.bind, pure, Except.pure] at h
      obtain ⟨x, hmem, hfx⟩ := ih hrest
      exact ⟨x, List.mem_cons_of_mem _ hmem, hfx⟩

theorem forM_eq_ok {f : α → Except ε Unit} {xs : List α} (h : ∀ x ∈ xs, f x = .ok ()) : xs.forM f = .ok () := by
  induction xs with
  | nil => rfl
  | cons x xs ih =>
    rw [List.forM_eq_forM, List.forM_cons, h x List.mem_cons_self]
    exact ih fun y hy => h y (List.mem_cons_of_mem _ hy)

theorem exists_mapM_eq_ok {P : β → Prop} {xs : List α} (h : ∀ x ∈ xs, ∃ y, f x = .ok y ∧ P y) :
    ∃ ys, xs.mapM f = .ok ys ∧ ∀ y ∈ ys, P y := by
  induction xs with
  | nil => exact ⟨[], rfl, by simp⟩
  | cons x xs ih =>
    obtain ⟨y, hy, hPy⟩ := h x List.mem_cons_self
    obtain ⟨ys, hys, hPys⟩ := ih fun z hz => h z (List.mem_cons_of_mem _ hz)
    exact ⟨y :: ys, by rw [List.mapM_cons, hy, hys]; rfl, List.forall_mem_cons.mpr ⟨hPy, hPys⟩⟩

/-- The items of a list are asked one after another until the answer of one is `stop`. -/
def askUntil (stop : Bool) (f : α → Except ε Bool) : List α → Except ε Bool
  | [] => .ok !stop
  | x :: rest => do
    let answer ← f x
    if answer = stop then return stop else askUntil stop f rest

section Asking

variable {stop : Bool} {f : α → Except ε Bool} {x : α} {xs : List α}

theorem askUntil_cons_of_eq_stop (h : f x = .ok stop) (xs : List α) : askUntil stop f (x :: xs) = .ok stop := by
  rw [askUntil, h]
  exact if_pos rfl

theorem askUntil_cons_of_eq_not (h : f x = .ok !stop) (xs : List α) :
    askUntil stop f (x :: xs) = askUntil stop f xs := by
  rw [askUntil, h]
  exact if_neg (Bool.self_ne_not stop).symm

theorem askUntil_cons_of_eq_error {e : ε} (h : f x = .error e) (xs : List α) :
    askUntil stop f (x :: xs) = .error e := by
  rw [askUntil, h]
  rfl

theorem askUntil_eq_not_iff : askUntil stop f xs = .ok !stop ↔ ∀ x ∈ xs, f x = .ok !stop := by
  induction xs with
  | nil => simp [askUntil]
  | cons x xs ih =>
    rw [List.forall_mem_cons, ← ih]
    cases hx : f x with
    | error e => simp [askUntil_cons_of_eq_error hx]
    | ok answer =>
      obtain rfl | rfl := Bool.eq_or_eq_not answer stop
      · simp [askUntil_cons_of_eq_stop hx]
      · simp [askUntil_cons_of_eq_not hx]

theorem exists_of_askUntil_eq_stop (h : askUntil stop f xs = .ok stop) : ∃ x ∈ xs, f x = .ok stop := by
  induction xs with
  | nil => exact absurd (Except.ok.inj h).symm (Bool.self_ne_not stop)
  | cons x xs ih =>
    cases hx : f x with
    | error e =>
      rw [askUntil_cons_of_eq_error hx] at h
      cases h
    | ok answer =>
      obtain rfl | rfl := Bool.eq_or_eq_not answer stop
      · exact ⟨x, List.mem_cons_self, hx⟩
      · rw [askUntil_cons_of_eq_not hx] at h
        obtain ⟨y, hy, hfy⟩ := ih h
        exact ⟨y, List.mem_cons_of_mem _ hy, hfy⟩

/-- Two ways of asking that answer no item in opposite ways do not answer in opposite ways in the end. -/
theorem askUntil_ne_ok_of_forall {g : α → Except ε Bool} {b : Bool} (h : ∀ x ∈ xs, f x = .ok !b → g x ≠ .ok b)
    (hf : askUntil stop f xs = .ok !b) : askUntil stop g xs ≠ .ok b := by
  intro hg
  obtain rfl | rfl := Bool.eq_or_eq_not b stop
  · obtain ⟨x, hx, hgx⟩ := exists_of_askUntil_eq_stop hg
    exact h x hx (askUntil_eq_not_iff.mp hf x hx) hgx
  · rw [Bool.not_not] at hf h
    obtain ⟨x, hx, hfx⟩ := exists_of_askUntil_eq_stop hf
    exact h x hx hfx (askUntil_eq_not_iff.mp hg x hx)

/-- Where every item has an answer, there is an answer in the end. -/
theorem exists_askUntil (stop : Bool) (h : ∀ x ∈ xs, ∃ b, f x = .ok b) : ∃ b, askUntil stop f xs = .ok b := by
  induction xs with
  | nil => exact ⟨!stop, rfl⟩
  | cons x xs ih =>
    obtain ⟨⟨b, hb⟩, hxs⟩ := List.forall_mem_cons.mp h
    obtain rfl | rfl := Bool.eq_or_eq_not b stop
    · exact ⟨b, askUntil_cons_of_eq_stop hb xs⟩
    · rw [askUntil_cons_of_eq_not hb]
      exact ih hxs

end Asking

theorem filterMap_ite (c : α → Bool) (g : α → β) (xs : List α) :
    xs.filterMap (fun x => if c x then some (g x) else none) = (xs.filter c).map g := by
  induction xs with
  | nil => rfl
  | cons x xs ih => cases h : c x <;> simp [h, ih]

/-- What a partial operation makes of a list stands in the order of the items on which it is defined. -/
theorem forall₂_filterMap (f : α → Option β) (xs : List α) :
    List.Forall₂ (fun x y => f x = some y) (xs.filter fun x => (f x).isSome) (xs.filterMap f) := by
  induction xs with
  | nil => exact .nil
  | cons x xs ih =>
    cases h : f x with
    | none => simpa [h] using ih
    | some y => simpa [h] using ih

end TermSearch

/-! Lists of pairs read as dictionaries: a key keeps the place of its first insertion and holds the
value of its last. -/
namespace TermSearch.Assoc

variable {κ α : Type}

/-- The value under a key, with keys told apart by `same`. -/
def findBy? (same : κ → κ → Bool) (key : κ) : List (κ × α) → Option α
  | [] => none
  | (k, v) :: rest => if same k key then some v else findBy? same key rest

/-- Puts a value under a key: in place where the key is present, at the end where it is not. -/
def insertBy (same : κ → κ → Bool) (key : κ) (value : α) : List (κ × α) → List (κ × α)
  | [] => [(key, value)]
  | (k, v) :: rest =>
    if same k key then (k, value) :: rest else (k, v) :: insertBy same key value rest

variable [BEq κ]

def find? (key : κ) (m : List (κ × α)) : Option α := findBy? (· == ·) key m

def has (key : κ) (m : List (κ × α)) : Bool := (find? key m).isSome

def insert (key : κ) (value : α) (m : List (κ × α)) : List (κ × α) :=
  insertBy (· == ·) key value m

/-- Changes the value under a key, starting from `default` where the key is new. -/
def update (key : κ) (default : α) (f : α → α) (m : List (κ × α)) : List (κ × α) :=
  insert key (f ((find? key m).getD default)) m

/-- The dictionary of a list of pairs, inserted from left to right. -/
def ofPairs (pairs : List (κ × α)) : List (κ × α) :=
  pairs.foldl (fun m p => insert p.1 p.2 m) []

/-- The keys in order of first insertion. -/
def keys (m : List (κ × α)) : List κ := m.map Prod.fst

@[simp] theorem find?_nil (key : κ) : find? key ([] : List (κ × α)) = none := rfl

@[simp] theorem insert_nil (key : κ) (value : α) : insert key value [] = [(key, value)] := rfl

theorem find?_cons (key : κ) (p : κ × α) (m : List (κ × α)) :
    find? key (p :: m) = if p.1 == key then some p.2 else find? key m := rfl

theorem insert_cons (key : κ) (value : α) (p : κ × α) (m : List (κ × α)) :
    insert key value (p :: m) =
      if p.1 == key then (p.1, value) :: m else p :: insert key value m := rfl

theorem keys_insert (key : κ) (value : α) (m : List (κ × α)) :
    keys (insert key value m) = if has key m then keys m else keys m ++ [key] := by
  induction m with
  | nil => simp [keys, has]
  | cons p m ih =>
    rw [insert_cons]
    by_cases h : p.1 == key
    · simp [h, keys, has, find?_cons]
    · simp only [keys] at ih
      simp only [h, keys, has, find?_cons, Bool.false_eq_true, if_false, List.map_cons, ih]
      split <;> simp_all [has]

variable [LawfulBEq κ]

theorem beq_eq_false_of_not_mem_keys {key : κ} {p : κ × α} {m : List (κ × α)} (h : key ∉ keys (p :: m)) :
    (p.1 == key) = false ∧ key ∉ keys m := by
  rw [keys, List.map_cons, List.mem_cons, not_or] at h
  exact ⟨beq_false_of_ne fun heq => h.1 heq.symm, h.2⟩

/-- A key that a dictionary does not have is looked up behind it. -/
theorem find?_append_of_not_mem {key : κ} {m : List (κ × α)} (h : key ∉ keys m) (rest : List (κ × α)) :
    find? key (m ++ rest) = find? key rest := by
  induction m with
  | nil => rfl
  | cons p m ih =>
    obtain ⟨hfirst, hm⟩ := beq_eq_false_of_not_mem_keys h
    rw [List.cons_append, find?_cons, hfirst]
    exact ih hm

theorem insert_append_of_not_mem {key : κ} {m : List (κ × α)} (h : key ∉ keys m) (value : α)
    (rest : List (κ × α)) : insert key value (m ++ rest) = m ++ insert key value rest := by
  induction m with
  | nil => rfl
  | cons p m ih =>
    obtain ⟨hfirst, hm⟩ := beq_eq_false_of_not_mem_keys h
    rw [List.cons_append, insert_cons, hfirst, List.cons_append]
    exact congrArg (p :: ·) (ih hm)

@[simp] theorem find?_insert (key other : κ) (value : α) (m : List (κ × α)) :
    find? other (insert key value m) = if key == other then some value else find? other m := by
  induction m with
  | nil => simp [find?_cons]
  | cons p m ih =>
    rw [insert_cons]
    by_cases h : p.1 == key
    · have hk : p.1 = key := by simpa using h
      subst hk
      simp only [beq_self_eq_true, if_true, find?_cons]
      split <;> rfl
    · simp only [h, Bool.false_eq_true, if_false, find?_cons, ih]
      by_cases ho : p.1 == other
      · have : ¬ key = other := by
          intro e; subst e; exact h ho
        simp [ho, this]
      · simp [ho]

theorem mem_keys_iff {key : κ} {m : List (κ × α)} : key ∈ keys m ↔ ∃ value, find? key m = some value := by
  induction m with
  | nil => simp [keys]
  | cons p m ih =>
    have hkeys : keys (p :: m) = p.1 :: keys m := rfl
    rw [hkeys, List.mem_cons, ih, find?_cons]
    by_cases h : p.1 == key
    · have hk : p.1 = key := by simpa using h
      simp [hk]
    · have hk : key ≠ p.1 := by
        intro e; subst e; simp at h
      simp [h, hk]

theorem has_eq_true_iff {key : κ} {m : List (κ × α)} : has key m = true ↔ key ∈ keys m := by
  rw [has, mem_keys_iff, Option.isSome_iff_exists]

theorem insert_of_not_mem {key : κ} {m : List (κ × α)} (h : key ∉ keys m) (value : α) :
    insert key value m = m ++ [(key, value)] := by
  have hinsert := insert_append_of_not_mem h value []
  rwa [List.append_nil] at hinsert

/-- No key stands twice in a dictionary. -/
theorem nodup_keys_insert {m : List (κ × α)} (h : (keys m).Nodup) (key : κ) (value : α) :
    (keys (insert key value m)).Nodup := by
  rw [keys_insert]
  split
  · exact h
  · rename_i hnew
    rw [has_eq_true_iff] at hnew
    exact List.nodup_append.mpr ⟨h, List.pairwise_singleton _ _, fun a ha b hb hab =>
      hnew (List.mem_singleton.mp hb ▸ hab ▸ ha)⟩

theorem nodup_keys_foldl {m : List (κ × α)} (h : (keys m).Nodup) (pairs : List (κ × α)) :
    (keys (pairs.foldl (fun m p => insert p.1 p.2 m) m)).Nodup := by
  induction pairs generalizing m with
  | nil => exact h
  | cons p pairs ih => exact ih (nodup_keys_insert h p.1 p.2)

theorem nodup_keys_ofPairs (pairs : List (κ × α)) : (keys (ofPairs pairs)).Nodup :=
  nodup_keys_foldl (show (keys ([] : List (κ × α))).Nodup from List.nodup_nil) pairs

omit [BEq κ] [LawfulBEq κ] in
theorem not_mem_keys_of_nodup {m rest : List (κ × α)} {p : κ × α} (h : (keys (m ++ p :: rest)).Nodup) :
    p.1 ∉ keys m := by
  rw [keys, List.map_append, List.nodup_append] at h
  exact fun hmem => h.2.2 p.1 hmem p.1 List.mem_cons_self rfl

theorem foldl_insert_of_nodup {m pairs : List (κ × α)} (h : (keys (m ++ pairs)).Nodup) :
    pairs.foldl (fun m p => insert p.1 p.2 m) m = m ++ pairs := by
  induction pairs generalizing m with
  | nil => rw [List.append_nil]; rfl
  | cons p pairs ih =>
    rw [List.foldl_cons, insert_of_not_mem (not_mem_keys_of_nodup h), ih (by rwa [List.append_assoc]),
      List.append_assoc]
    rfl

/-- Pairs whose keys are all different are a dictionary as they stand. -/
theorem ofPairs_of_nodup {pairs : List (κ × α)} (h : (keys pairs).Nodup) : ofPairs pairs = pairs :=
  foldl_insert_of_nodup h

end TermSearch.Assoc

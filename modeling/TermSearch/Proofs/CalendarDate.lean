import TermSearch.Proofs.KeptTime

/-! Dates within the calendar. The date of a day from the year 1 on is a date of its month, and a date of a year lies
before the year after it. So the instants of valid times reach at most a day beyond the years 1 to 9999. -/
namespace TermSearch.Calendar

theorem isLeap_iff {year : Nat} : isLeap year = true ↔ year % 4 = 0 ∧ (year % 100 ≠ 0 ∨ year % 400 = 0) := by
  simp [isLeap]

/-- The number of days of a year. -/
def yearLength (year : Nat) : Nat := if isLeap year then 366 else 365

theorem sum_monthLengths (year : Nat) : (monthLengths (isLeap year)).foldl (· + ·) 0 = yearLength year := by
  unfold yearLength
  cases isLeap year <;> rfl

theorem daysBeforeYear_succ {year : Nat} (h : 1 ≤ year) :
    daysBeforeYear (year + 1) = daysBeforeYear year + yearLength year := by
  obtain ⟨y, rfl⟩ : ∃ y, year = y + 1 := ⟨year - 1, by omega⟩
  have hcenturies : y / 100 ≤ y * 365 + y / 4 := by omega
  have hmod100 : (y + 1) % 100 = 0 → (y + 1) % 4 = 0 := by omega
  have hmod400 : (y + 1) % 400 = 0 → (y + 1) % 100 = 0 := by omega
  simp only [daysBeforeYear, yearLength, isLeap_iff, Nat.add_sub_cancel, Nat.succ_div, Nat.dvd_iff_mod_eq_zero]
  generalize y / 4 = quads at *
  generalize y / 100 = centuries at *
  generalize y / 400 = cycles at *
  by_cases h4 : (y + 1) % 4 = 0 <;> by_cases h100 : (y + 1) % 100 = 0 <;> by_cases h400 : (y + 1) % 400 = 0 <;>
    simp [h4, h100, h400] at * <;> omega

/-- The days of a month fit behind those of the months before it. -/
theorem sum_take_add_getD_le (lengths : List Nat) (k : Nat) :
    (lengths.take k).foldl (· + ·) 0 + lengths.getD k 0 ≤ lengths.foldl (· + ·) 0 := by
  induction lengths generalizing k with
  | nil => simp
  | cons length rest ih =>
    cases k with
    | zero =>
      rw [List.take_zero, List.getD_cons_zero, foldl_add_cons]
      simp
    | succ k =>
      have hrest := ih k
      rw [List.take_succ_cons, foldl_add_cons, foldl_add_cons, List.getD_cons_succ]
      omega

/-- A date of a year lies before the next year. -/
theorem dayNumber_lt {year month day : Nat} (hyear : 1 ≤ year) (hfirst : 1 ≤ day) (hday : day ≤ daysInMonth year month) :
    dayNumber year month day < daysBeforeYear (year + 1) := by
  have hmonth : month ≠ 0 := by
    rintro rfl
    rw [daysInMonth, if_pos rfl] at hday
    omega
  have hsum := sum_take_add_getD_le (monthLengths (isLeap year)) (month - 1)
  rw [sum_monthLengths] at hsum
  rw [daysInMonth, if_neg hmonth] at hday
  rw [dayNumber, daysBeforeMonth, daysBeforeYear_succ hyear]
  omega

/-- The month and the day at a place within a year are one of its months and a day of this month. -/
theorem monthAndDay_isValid (month : Nat) {lengths : List Nat} {day : Nat} (h : day < lengths.foldl (· + ·) 0) :
    (monthAndDay month lengths day).1 < month + lengths.length ∧ 1 ≤ (monthAndDay month lengths day).2 ∧
      (monthAndDay month lengths day).2 ≤ lengths.getD ((monthAndDay month lengths day).1 - month) 0 := by
  induction lengths generalizing month day with
  | nil => cases h
  | cons length rest ih =>
    rw [foldl_add_cons] at h
    rw [monthAndDay]
    split
    · simp
      omega
    · have hday : day - length < rest.foldl (· + ·) 0 := by omega
      obtain ⟨hlt, hfirst, hlast⟩ := ih (month + 1) hday
      obtain ⟨hle, -⟩ := monthAndDay_spec (month + 1) rest (day - length)
      generalize monthAndDay (month + 1) rest (day - length) = r at *
      have hk : r.1 - month = (r.1 - (month + 1)) + 1 := by omega
      rw [hk, List.getD_cons_succ, List.length_cons]
      exact ⟨by omega, hfirst, hlast⟩

/-- The days of a cycle of 400 years that are left behind its whole years are fewer than those of a year. -/
theorem inYear_lt {r : Nat} (h : r < 146097) :
    (r - min (r / 36524) 3 * 36524) % 1461 - min ((r - min (r / 36524) 3 * 36524) % 1461 / 365) 3 * 365 <
      yearLength (100 * min (r / 36524) 3 + 4 * ((r - min (r / 36524) 3 * 36524) / 1461) +
        min ((r - min (r / 36524) 3 * 36524) % 1461 / 365) 3 + 1) := by
  -- a short century ends a day before its last four years are full
  have hshort : min (r / 36524) 3 < 3 → r - min (r / 36524) 3 * 36524 < 36524 := by omega
  obtain ⟨-, hcentury⟩ := century_spec h
  generalize r - min (r / 36524) 3 * 36524 = inCentury at *
  have hcenturies : min (r / 36524) 3 ≤ 3 := Nat.min_le_right _ _
  generalize min (r / 36524) 3 = century at *
  have hdiv := Nat.div_add_mod inCentury 1461
  have hmod := Nat.mod_lt inCentury (by decide : 0 < 1461)
  generalize inCentury / 1461 = quad at *
  generalize inCentury % 1461 = inQuad at *
  simp only [yearLength, isLeap_iff]
  split <;> omega

/-- The date of a day from the year 1 on has a month of the year and a day of the month. -/
theorem dateOfDay_isValid {n : Nat} {year : Int} {month day : Nat} (h : dateOfDay n = (year, month, day)) :
    1 ≤ month ∧ month ≤ 12 ∧ 1 ≤ day ∧ day ≤ daysInMonth year.toNat month := by
  have hmod : ((n : Int) % 146097).toNat = n % 146097 := by omega
  have hdiv : (n : Int) / 146097 = ((n / 146097 : Nat) : Int) := by omega
  have hlength := inYear_lt (Nat.mod_lt n (by decide : 0 < 146097))
  simp only [dateOfDay, hdiv, hmod, Prod.mk.injEq] at h
  obtain ⟨hyear, hmonth, hday⟩ := h
  generalize hinYear : (n % 146097 - min (n % 146097 / 36524) 3 * 36524) % 1461 -
    min ((n % 146097 - min (n % 146097 / 36524) 3 * 36524) % 1461 / 365) 3 * 365 = inYear at *
  generalize hyearInCycle : 100 * min (n % 146097 / 36524) 3 +
    4 * ((n % 146097 - min (n % 146097 / 36524) 3 * 36524) / 1461) +
    min ((n % 146097 - min (n % 146097 / 36524) 3 * 36524) % 1461 / 365) 3 + 1 = yearInCycle at *
  have htoNat : year.toNat = 400 * (n / 146097) + yearInCycle := by omega
  rw [← sum_monthLengths] at hlength
  obtain ⟨hlast, hfirst, hdays⟩ := monthAndDay_isValid 1 hlength
  obtain ⟨hmonthFirst, -⟩ := monthAndDay_spec 1 (monthLengths (isLeap yearInCycle)) inYear
  rw [hmonth] at hlast hmonthFirst hdays
  rw [hday] at hfirst hdays
  have hnonzero : month ≠ 0 := by omega
  rw [daysInMonth, if_neg hnonzero, htoNat, isLeap_add_cycles]
  exact ⟨hmonthFirst, Nat.le_of_lt_succ hlast, hfirst, hdays⟩

namespace CivilTime

/-- The time of a second within the calendar is a valid time, given in universal time. -/
theorem ofSeconds?_isValid {seconds : Int} (h : InCalendar seconds) {t : CivilTime} (ht : ofSeconds? seconds = .ok t) :
    t.isValid = true ∧ t.offset = some 0 := by
  rw [inCalendar_iff] at h
  obtain ⟨n, hn⟩ : ∃ n : Nat, seconds / 86400 + epochDay = n :=
    ⟨(seconds / 86400 + epochDay).toNat, by rw [epochDay]; omega⟩
  rcases hdate : dateOfDay n with ⟨year, month, day⟩
  obtain ⟨hmonth, hmonthLast, hday, hdayLast⟩ := dateOfDay_isValid hdate
  rw [ofSeconds?, hn, hdate] at ht
  dsimp only at ht
  split at ht
  · rename_i hyear
    obtain rfl := Except.ok.inj ht
    refine ⟨?_, rfl⟩
    simp only [isValid, Bool.and_eq_true, decide_eq_true_eq]
    omega
  · cases ht

end CivilTime

end TermSearch.Calendar

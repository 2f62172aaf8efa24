import Mathlib.Algebra.Group.Nat.Defs
import Mathlib.Tactic.ByContra
import TermSearch.Calendar.CivilTime

/-! Times on whole seconds. A whole second within the years 1 to 9999 is kept exactly by the 64-bit numbers in
which instants are compared, and the date that is computed from it stands for the same second. -/
namespace TermSearch.Calendar

theorem roundDiv_mul_self (k : Nat) {d : Nat} (hd : 0 < d) : Decimal.roundDiv (k * d) d = k := by
  simp [Decimal.roundDiv, Nat.mul_div_cancel k hd, hd]

theorem foldl_add_cons (length : Nat) (lengths : List Nat) :
    (length :: lengths).foldl (· + ·) 0 = length + lengths.foldl (· + ·) 0 := by
  rw [List.foldl_cons, Nat.add_comm 0 length, List.foldl_assoc]

/-- The parts of a month and a day add up to the day of the year that they were taken from. -/
theorem monthAndDay_spec (month : Nat) (lengths : List Nat) (day : Nat) :
    month ≤ (monthAndDay month lengths day).1 ∧
    (lengths.take ((monthAndDay month lengths day).1 - month)).foldl (· + ·) 0 +
      ((monthAndDay month lengths day).2 - 1) = day := by
  induction lengths generalizing month day with
  | nil => simp [monthAndDay]
  | cons length rest ih =>
    rw [monthAndDay]
    split
    · simp
    · obtain ⟨hle, hsum⟩ := ih (month + 1) (day - length)
      generalize monthAndDay (month + 1) rest (day - length) = r at hle hsum ⊢
      have hk : r.1 - month = (r.1 - (month + 1)) + 1 := by omega
      rw [hk, List.take_succ_cons, foldl_add_cons]
      omega

theorem isLeap_add_cycles (k y : Nat) : isLeap (400 * k + y) = isLeap y := by
  have h4 : (400 * k + y) % 4 = y % 4 := by omega
  have h100 : (400 * k + y) % 100 = y % 100 := by omega
  have h400 : (400 * k + y) % 400 = y % 400 := by omega
  rw [isLeap, isLeap, h4, h100, h400]

/-- The days before a year, by its place in a cycle of 400 years. -/
theorem daysBeforeYear_eq (cycle century quad single : Nat) (hc : century ≤ 3) (hq : quad ≤ 24)
    (hs : single ≤ 3) : daysBeforeYear (400 * cycle + (100 * century + 4 * quad + single + 1)) =
      146097 * cycle + 36524 * century + 1461 * quad + 365 * single := by
  have hyear : 400 * cycle + (100 * century + 4 * quad + single + 1) - 1 =
      400 * cycle + 100 * century + 4 * quad + single := by omega
  have h4 : (400 * cycle + 100 * century + 4 * quad + single) / 4 = 100 * cycle + 25 * century + quad := by omega
  have h100 : (400 * cycle + 100 * century + 4 * quad + single) / 100 = 4 * cycle + century := by omega
  have h400 : (400 * cycle + 100 * century + 4 * quad + single) / 400 = cycle := by omega
  simp only [daysBeforeYear, hyear, h4, h100, h400]
  omega

theorem daysBeforeYear_mono {y z : Nat} (h : y ≤ z) : daysBeforeYear y ≤ daysBeforeYear z := by
  induction h with
  | refl => exact Nat.le_refl _
  | @step z _ ih =>
    have hstep : daysBeforeYear z ≤ daysBeforeYear (z + 1) := by
      simp only [daysBeforeYear]
      omega
    exact Nat.le_trans ih hstep

theorem century_spec {r : Nat} (h : r < 146097) :
    min (r / 36524) 3 * 36524 ≤ r ∧ r - min (r / 36524) 3 * 36524 < 36525 := by
  omega

theorem single_spec (r : Nat) : min (r / 365) 3 * 365 ≤ r := by
  omega

/-- The parts of a day number: cycles of 400 years, centuries, four years, single years and days. -/
theorem exists_dayParts {n : Nat} {year : Int} {month day : Nat} (h : dateOfDay n = (year, month, day)) :
    ∃ cycle century quad single inYear : Nat, century ≤ 3 ∧ quad ≤ 24 ∧ single ≤ 3 ∧
      n = 146097 * cycle + 36524 * century + 1461 * quad + 365 * single + inYear ∧
      year = 400 * (cycle : Int) + ((100 * century + 4 * quad + single + 1 : Nat) : Int) ∧
      monthAndDay 1 (monthLengths (isLeap (100 * century + 4 * quad + single + 1))) inYear = (month, day) := by
  have hmod : ((n : Int) % 146097).toNat = n % 146097 := by omega
  have hdiv : (n : Int) / 146097 = ((n / 146097 : Nat) : Int) := by omega
  have hn : 146097 * (n / 146097) + n % 146097 = n := Nat.div_add_mod n 146097
  obtain ⟨hcentury, hinCentury⟩ := century_spec (Nat.mod_lt n (by decide : 0 < 146097))
  simp only [dateOfDay, hdiv, hmod, Prod.mk.injEq] at h
  obtain ⟨hyear, hmonth, hday⟩ := h
  refine ⟨n / 146097, _, _, _, _, Nat.min_le_right (n % 146097 / 36524) 3, ?_, Nat.min_le_right _ _, ?_, hyear.symm,
    Prod.ext hmonth hday⟩
  · exact Nat.le_of_lt_succ ((Nat.div_lt_iff_lt_mul (by decide)).mpr hinCentury)
  · generalize min (n % 146097 / 36524) 3 = century at *
    have hquad := Nat.div_add_mod (n % 146097 - century * 36524) 1461
    have hsingle := single_spec ((n % 146097 - century * 36524) % 1461)
    generalize (n % 146097 - century * 36524) % 1461 = inQuad at *
    omega

/-- The date of a day from the year 1 on has the number of this day. -/
theorem dayNumber_dateOfDay {n : Nat} {year : Int} {month day : Nat} (h : dateOfDay n = (year, month, day)) :
    1 ≤ year ∧ daysBeforeYear year.toNat ≤ n ∧ dayNumber year.toNat month day = n := by
  obtain ⟨cycle, century, quad, single, inYear, hc, hq, hs, hn, rfl, hmonth⟩ := exists_dayParts h
  have hdays := daysBeforeYear_eq cycle century quad single hc hq hs
  obtain ⟨-, hday⟩ := monthAndDay_spec 1 (monthLengths (isLeap (100 * century + 4 * quad + single + 1))) inYear
  have hyear : (400 * (cycle : Int) + ((100 * century + 4 * quad + single + 1 : Nat) : Int)).toNat =
      400 * cycle + (100 * century + 4 * quad + single + 1) := by omega
  rw [hmonth] at hday
  rw [hyear, dayNumber, daysBeforeMonth, isLeap_add_cycles, hdays, hn,
    Nat.add_assoc (146097 * cycle + 36524 * century + 1461 * quad + 365 * single), hday]
  exact ⟨by omega, Nat.le_add_right _ _, rfl⟩

/-- A number of seconds within the years 1 to 9999 in universal time. -/
def InCalendar (seconds : Int) : Prop :=
  ((dayNumber 1 1 1 : Int) - epochDay) * 86400 ≤ seconds ∧
    seconds < ((dayNumber 10000 1 1 : Int) - epochDay) * 86400

instance (seconds : Int) : Decidable (InCalendar seconds) := inferInstanceAs (Decidable (_ ∧ _))

theorem inCalendar_iff {seconds : Int} :
    InCalendar seconds ↔ -62135596800 ≤ seconds ∧ seconds < 253402300800 := by
  have h1 : ((dayNumber 1 1 1 : Int) - epochDay) * 86400 = -62135596800 := by decide
  have h2 : ((dayNumber 10000 1 1 : Int) - epochDay) * 86400 = 253402300800 := by decide
  rw [InCalendar, h1, h2]

namespace CivilTime

/-- A time on a whole second within the years 1 to 9999 in universal time. -/
def IsWhole (t : CivilTime) : Prop := ∃ seconds, InCalendar seconds ∧ t.microseconds = seconds * 1000000

/-- The units of the numbers of a size, and the size, make up the least unit in which instants are given. -/
theorem pow_mul_pow_log2 {whole : Nat} (h : whole < 2 ^ 53) :
    Nat.pow 2 (52 - whole.log2) * Nat.pow 2 whole.log2 = Nat.pow 2 52 := by
  have hbits : whole.log2 ≤ 52 := by
    by_cases h0 : whole = 0
    · rw [h0]
      decide
    · exact Nat.le_of_lt_succ ((Nat.log2_lt h0).mpr h)
  have hadd := Nat.pow_add 2 (52 - whole.log2) whole.log2
  rw [Nat.sub_add_cancel hbits] at hadd
  exact hadd.symm

/-- A whole number of seconds is kept without rounding. -/
theorem roundedSeconds_of_whole {seconds : Int} (h : seconds.natAbs < Nat.pow 2 53) :
    roundedSeconds (seconds * 1000000) = seconds * (Nat.pow 2 52 : Nat) := by
  have habs : (seconds * 1000000).natAbs = seconds.natAbs * 1000000 := Int.natAbs_mul seconds 1000000
  have hpow := pow_mul_pow_log2 h
  have hsize : Decimal.roundDiv (seconds.natAbs * 1000000 * Nat.pow 2 (52 - seconds.natAbs.log2)) 1000000 *
      Nat.pow 2 seconds.natAbs.log2 = seconds.natAbs * Nat.pow 2 52 := by
    rw [Nat.mul_right_comm, roundDiv_mul_self _ (by decide), Nat.mul_assoc, hpow]
  unfold roundedSeconds
  simp only [habs, Nat.mul_div_cancel _ (by decide : 0 < 1000000), hsize]
  rw [Int.natCast_mul]
  split
  · have hneg : (seconds.natAbs : Int) = -seconds := by omega
    rw [hneg, Int.neg_mul, Int.neg_neg]
  · have hpos : (seconds.natAbs : Int) = seconds := by omega
    rw [hpos]

theorem instant_of_whole {t : CivilTime} {seconds : Int} (h : InCalendar seconds)
    (ht : t.microseconds = seconds * 1000000) : t.instant = seconds * (Nat.pow 2 52 : Nat) := by
  rw [inCalendar_iff] at h
  have hbound : seconds.natAbs < 9007199254740992 := by omega
  rw [instant, ht]
  exact roundedSeconds_of_whole hbound

theorem wholeSeconds_of_whole {t : CivilTime} {seconds : Int} (h : InCalendar seconds)
    (ht : t.microseconds = seconds * 1000000) : t.wholeSeconds = seconds := by
  rw [wholeSeconds, instant_of_whole h ht]
  exact Int.mul_tdiv_cancel seconds (by decide)

theorem clock_spec (n : Nat) : n / 3600 * 3600 + n % 3600 / 60 * 60 + n % 60 = n := by
  omega

theorem daySeconds_spec (seconds : Int) : seconds / 86400 * 86400 + ((seconds % 86400).toNat : Int) = seconds := by
  omega

/-- The time of a second within the calendar stands for this second. -/
theorem ofSeconds?_of_inCalendar {seconds : Int} (h : InCalendar seconds) :
    ∃ t, ofSeconds? seconds = .ok t ∧ t.microseconds = seconds * 1000000 := by
  rw [inCalendar_iff] at h
  obtain ⟨n, hn⟩ : ∃ n : Nat, seconds / 86400 + epochDay = n :=
    ⟨(seconds / 86400 + epochDay).toNat, by rw [epochDay]; omega⟩
  have hbound : n < daysBeforeYear 10000 := by
    have hlast : daysBeforeYear 10000 = 3652059 := by decide
    rw [epochDay] at hn
    omega
  rcases hdate : dateOfDay n with ⟨year, month, day⟩
  obtain ⟨hfirst, hdays, hnumber⟩ := dayNumber_dateOfDay hdate
  have hlast : year ≤ 9999 := by
    by_contra hgt
    have hlate : 10000 ≤ year.toNat := by omega
    have hmono := daysBeforeYear_mono hlate
    omega
  have hday : (n : Int) - epochDay = seconds / 86400 := by rw [← hn, Int.add_sub_cancel]
  unfold ofSeconds?
  rw [hn, hdate]
  refine ⟨_, if_pos ⟨hfirst, hlast⟩, ?_⟩
  simp only [microseconds, Option.getD_some, hnumber, hday, clock_spec]
  rw [daySeconds_spec, Int.sub_zero]
  exact Int.add_zero _

end CivilTime

end TermSearch.Calendar

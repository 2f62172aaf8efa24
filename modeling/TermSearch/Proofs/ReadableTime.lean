import TermSearch.Proofs.CalendarDate

/-! Which times can be read back. A time is kept as a whole second: its microseconds are rounded to the nearest 64-bit
number of seconds, whose fraction is dropped. Near the ends of the calendar the offset of a time, or the rounding of its
microseconds, may take this second out of the years 1 to 9999. -/
namespace TermSearch.Calendar

/-- A rounded quotient stays below an even bound as long as it is nearer to the number before the bound, since a tie goes
to the even number. -/
theorem roundDiv_lt_iff {num bound : Nat} (hbound : bound % 2 = 0) (hpos : 0 < bound) :
    Decimal.roundDiv num 1000000 < bound ↔ 2 * num < (2 * bound - 1) * 1000000 := by
  unfold Decimal.roundDiv
  dsimp only
  split
  · omega
  · split
    · omega
    · split <;> omega

theorem roundDiv_le_succ (num den : Nat) : Decimal.roundDiv num den ≤ num / den + 1 := by
  unfold Decimal.roundDiv
  dsimp only
  split
  · omega
  · split
    · omega
    · split <;> omega

namespace CivilTime

/-- The whole seconds in the nearest 64-bit number of seconds to some microseconds. -/
def nearestSeconds (us : Nat) : Nat :=
  Decimal.roundDiv (us * 2 ^ (52 - (us / 1000000).log2)) 1000000 / 2 ^ (52 - (us / 1000000).log2)

/-- A time is kept as the whole seconds in its microseconds, before or after 1970. -/
theorem wholeSeconds_eq {t : CivilTime} (h : t.microseconds.natAbs / 1000000 < 2 ^ 53) : t.wholeSeconds =
    if t.microseconds < 0 then -(nearestSeconds t.microseconds.natAbs : Int)
    else nearestSeconds t.microseconds.natAbs := by
  have hpow := pow_mul_pow_log2 h
  have hpos : 0 < Nat.pow 2 (t.microseconds.natAbs / 1000000).log2 := Nat.pow_pos (by decide)
  have hsize (n : Nat) : n * Nat.pow 2 (t.microseconds.natAbs / 1000000).log2 / Nat.pow 2 52 =
      n / Nat.pow 2 (52 - (t.microseconds.natAbs / 1000000).log2) := by
    rw [← hpow, Nat.mul_div_mul_right _ _ hpos]
  unfold wholeSeconds instant roundedSeconds
  dsimp only
  split
  · rw [Int.neg_tdiv, ← Int.ofNat_tdiv, hsize]
    rfl
  · rw [← Int.ofNat_tdiv, hsize]
    rfl

/-- Rounding passes the whole seconds by one at most. -/
theorem nearestSeconds_le (us : Nat) : nearestSeconds us ≤ us / 1000000 + 1 := by
  unfold nearestSeconds
  have hpos : 0 < 2 ^ (52 - (us / 1000000).log2) := Nat.pow_pos (by decide)
  generalize 2 ^ (52 - (us / 1000000).log2) = units at *
  have hround := roundDiv_le_succ (us * units) 1000000
  have hus : us < (us / 1000000 + 1) * 1000000 := by omega
  have hscaled : us * units < (us / 1000000 + 1) * units * 1000000 := by
    rw [Nat.mul_right_comm]
    exact Nat.mul_lt_mul_of_pos_right hus hpos
  have hdiv : us * units / 1000000 < (us / 1000000 + 1) * units :=
    (Nat.div_lt_iff_lt_mul (by decide)).mpr hscaled
  rw [Nat.div_le_iff_le_mul_add_pred hpos, Nat.mul_comm units]
  omega

/-- Seconds from a power of two on are rounded to the same units as far as the next power of two. They stay below a
bound as long as they are nearer to the unit before it. -/
theorem nearestSeconds_lt_iff (us seconds : Nat) {bits : Nat} (hbits : bits < 52) (hlow : 2 ^ bits < seconds)
    (hus : us / 1000000 < 2 ^ (bits + 1)) : nearestSeconds us < seconds ↔
      2 * (us * 2 ^ (52 - bits)) < (2 * (seconds * 2 ^ (52 - bits)) - 1) * 1000000 := by
  have hunits : 2 ^ (52 - bits) = 2 * 2 ^ (51 - bits) := by
    rw [← Nat.pow_succ']
    congr 1
    omega
  have hpos : 0 < 2 ^ (51 - bits) := Nat.pow_pos (by decide)
  by_cases hsmall : us / 1000000 < 2 ^ bits
  -- below the power of two the units are finer, but there the bound is out of reach anyway
  · have hle := nearestSeconds_le us
    have hfar : us * 2 ^ (52 - bits) < (seconds - 1) * 1000000 * 2 ^ (52 - bits) :=
      Nat.mul_lt_mul_of_pos_right (by omega) (by omega)
    have hbound : (seconds - 1) * 1000000 * 2 ^ (52 - bits) =
        seconds * 2 ^ (52 - bits) * 1000000 - 2 ^ (52 - bits) * 1000000 := by
      rw [Nat.mul_right_comm, Nat.sub_mul, Nat.sub_mul, Nat.one_mul]
    generalize seconds * 2 ^ (52 - bits) = bound at *
    generalize us * 2 ^ (52 - bits) = scaled at *
    omega
  · have hfirst : 0 < 2 ^ bits := Nat.pow_pos (by decide)
    have hne : us / 1000000 ≠ 0 := by omega
    have hlog : (us / 1000000).log2 = bits := by
      refine Nat.le_antisymm (Nat.le_of_lt_succ ((Nat.log2_lt hne).mpr hus)) ?_
      exact (Nat.le_log2 hne).mpr (Nat.le_of_not_lt hsmall)
    rw [nearestSeconds, hlog, Nat.div_lt_iff_lt_mul (by omega)]
    have heven : seconds * 2 ^ (52 - bits) % 2 = 0 := by
      rw [hunits, Nat.mul_left_comm]
      exact Nat.mul_mod_right 2 _
    exact roundDiv_lt_iff heven (Nat.mul_pos (by omega) (by omega))

/-- A valid time lies less than a day outside of the years 1 to 9999. -/
theorem microseconds_bounds {t : CivilTime} (hvalid : t.isValid = true) (hnear : t.hasNearOffset = true) :
    -62135683200000000 < t.microseconds ∧ t.microseconds < 253402387200000000 := by
  simp only [isValid, Bool.and_eq_true, decide_eq_true_eq] at hvalid
  obtain ⟨⟨⟨⟨⟨⟨⟨⟨⟨hyear, hlast⟩, -⟩, -⟩, hfirst⟩, hday⟩, hhour⟩, hminute⟩, hsecond⟩, hmicro⟩ := hvalid
  have hnumber := Nat.lt_of_lt_of_le (dayNumber_lt hyear hfirst hday) (daysBeforeYear_mono (Nat.succ_le_succ hlast))
  have hdays : daysBeforeYear (9999 + 1) = 3652059 := by decide
  have hoffset : (t.offset.getD 0).natAbs < 86400000000 := by
    unfold hasNearOffset at hnear
    cases hsome : t.offset with
    | none => decide
    | some us => simpa [hsome] using hnear
  rw [hdays] at hnumber
  unfold microseconds
  simp only [epochDay]
  omega

/-- A time that can be read back. Fractions of a second are dropped towards 1970, so that the last second before the
year 1 is read as its first one. A few microseconds at the beginning of this second, and at the end of the year 9999,
are rounded to the whole second outside of the calendar. -/
def IsReadable (t : CivilTime) : Prop := -62135596800999996 ≤ t.microseconds ∧ t.microseconds ≤ 253402300799999984

instance (t : CivilTime) : Decidable t.IsReadable := inferInstanceAs (Decidable (_ ∧ _))

/-- The kept second of a valid time lies within the calendar exactly when the time is readable. -/
theorem inCalendar_wholeSeconds_iff {t : CivilTime} (hvalid : t.isValid = true) (hnear : t.hasNearOffset = true) :
    InCalendar t.wholeSeconds ↔ t.IsReadable := by
  have hbounds := microseconds_bounds hvalid hnear
  rw [inCalendar_iff, IsReadable, wholeSeconds_eq (by omega)]
  split
  · have hfirst := nearestSeconds_lt_iff t.microseconds.natAbs 62135596801 (by decide : 35 < 52)
      (by decide) (by omega)
    omega
  · have hlast := nearestSeconds_lt_iff t.microseconds.natAbs 253402300800 (by decide : 37 < 52)
      (by decide) (by omega)
    omega

/-- The day before the calendar is a day of the year 0, and two days behind it are of the year 10000. -/
theorem ofSeconds?_outside {seconds : Int} (hout : ¬ InCalendar seconds) (hlow : -62135683200 ≤ seconds)
    (hhigh : seconds ≤ 253402387200) : ∃ e : YearOutOfRange, ofSeconds? seconds = .error e ∧ e.year ∈ [0, 10000] := by
  rw [inCalendar_iff] at hout
  have hdays : seconds / 86400 + epochDay = -1 ∨ seconds / 86400 + epochDay = 3652059 ∨
      seconds / 86400 + epochDay = 3652060 := by
    rw [epochDay]
    omega
  rcases hdays with hbefore | hbehind | hnext
  · have hdate : dateOfDay (-1) = (0, 12, 31) := by decide
    refine ⟨⟨0⟩, ?_, by simp⟩
    rw [ofSeconds?, hbefore, hdate]
    rfl
  · have hdate : dateOfDay 3652059 = (10000, 1, 1) := by decide
    refine ⟨⟨10000⟩, ?_, by simp⟩
    rw [ofSeconds?, hbehind, hdate]
    rfl
  · have hdate : dateOfDay 3652060 = (10000, 1, 2) := by decide
    refine ⟨⟨10000⟩, ?_, by simp⟩
    rw [ofSeconds?, hnext, hdate]
    rfl

/-- A valid time that is readable is read back as a time of the calendar. Of the others it is said that the year 0 or
10000 is out of range. -/
theorem ofSeconds?_wholeSeconds {t : CivilTime} (hvalid : t.isValid = true) (hnear : t.hasNearOffset = true) :
    if t.IsReadable then ∃ kept, ofSeconds? t.wholeSeconds = .ok kept
    else ∃ e : YearOutOfRange, ofSeconds? t.wholeSeconds = .error e ∧ e.year ∈ [0, 10000] := by
  by_cases hreadable : t.IsReadable
  · rw [if_pos hreadable]
    obtain ⟨kept, hkept, -⟩ := ofSeconds?_of_inCalendar ((inCalendar_wholeSeconds_iff hvalid hnear).mpr hreadable)
    exact ⟨kept, hkept⟩
  · rw [if_neg hreadable]
    have hout := mt (inCalendar_wholeSeconds_iff hvalid hnear).mp hreadable
    have hbounds := microseconds_bounds hvalid hnear
    have hround := nearestSeconds_le t.microseconds.natAbs
    have hwhole := wholeSeconds_eq (t := t) (by omega)
    refine ofSeconds?_outside hout ?_ ?_ <;> rw [hwhole] <;> split <;> omega

end CivilTime

end TermSearch.Calendar

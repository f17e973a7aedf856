import Mathlib
import Snowflake.Time.Calendar

/-!
Every day has a valid date, from which the day can be told. A day is found in cycles of 400, 100 and
4 years, of which the shorter ones are cut short or run over at the end of the longer ones.
-/

namespace Snowflake.Calendar

/-- A year by the cycles of 400, 100 and 4 years that are over before it, and the years after. -/
structure Cycles where
  era : Int
  century : Int
  four : Int
  year : Int
  century_mem : 0 ≤ century ∧ century ≤ 3
  four_mem : 0 ≤ four ∧ four ≤ 24
  year_mem : 0 ≤ year ∧ year ≤ 3

namespace Cycles

variable (c : Cycles)

def toYear : Int :=
  1 + 400 * c.era + 100 * c.century + 4 * c.four + c.year

/-- The last year of four is a leap year, unless it is the last of a century that is not the last
of 400 years. -/
def IsLeap : Prop :=
  c.year = 3 ∧ (c.four = 24 → c.century = 3)

theorem daysBeforeYear_toYear :
    daysBeforeYear c.toYear =
      146097 * c.era + 36524 * c.century + 1461 * c.four + 365 * c.year := by
  have hcentury := c.century_mem
  have hfour := c.four_mem
  have hyear := c.year_mem
  simp only [daysBeforeYear, toYear]
  omega

theorem isLeap_toYear : isLeap c.toYear = true ↔ c.IsLeap := by
  have hcentury := c.century_mem
  have hfour := c.four_mem
  have hyear := c.year_mem
  simp only [isLeap, toYear, IsLeap, Bool.and_eq_true, Bool.or_eq_true, beq_iff_eq, bne_iff_ne]
  omega

end Cycles

theorem exists_cycles (days : Int) :
    ∃ (c : Cycles) (day : Nat), c.era = days / 146097 ∧ yearOf days = c.toYear ∧
      days = daysBeforeYear c.toYear + day ∧ day ≤ 365 ∧ (day = 365 → c.IsLeap) := by
  obtain ⟨inEra, hinEra⟩ : ∃ n, n = days % 146097 := ⟨_, rfl⟩
  obtain ⟨century, hcentury⟩ : ∃ n, n = min 3 (inEra / 36524) := ⟨_, rfl⟩
  obtain ⟨inCentury, hinCentury⟩ : ∃ n, n = inEra - century * 36524 := ⟨_, rfl⟩
  obtain ⟨inFour, hinFour⟩ : ∃ n, n = inCentury % 1461 := ⟨_, rfl⟩
  obtain ⟨year, hyear⟩ : ∃ n, n = min 3 (inFour / 365) := ⟨_, rfl⟩
  have hyearOf : yearOf days =
      1 + 400 * (days / 146097) + 100 * century + 4 * (inCentury / 1461) + year := by
    subst hyear hinFour hinCentury hcentury hinEra
    rfl
  have hera : 0 ≤ inEra ∧ inEra < 146097 := by omega
  -- Only the last century of an era has a day past its twenty-five times four years.
  have hlast : 0 ≤ inCentury ∧ inCentury ≤ 36524 ∧ (inCentury = 36524 → century = 3) := by omega
  let c : Cycles := ⟨days / 146097, century, inCentury / 1461, year, by omega, by omega, by omega⟩
  refine ⟨c, (inFour - 365 * year).toNat, rfl, hyearOf, ?_, ?_, ?_⟩
  · rw [c.daysBeforeYear_toYear]
    simp only [c]
    omega
  · omega
  · simp only [Cycles.IsLeap, c]
    omega

/-- The day of its year on which a day falls, counted from zero. -/
theorem exists_dayOfYear (days : Int) :
    ∃ day : Nat, days = daysBeforeYear (yearOf days) + day ∧
      day < if isLeap (yearOf days) then 366 else 365 := by
  obtain ⟨c, day, -, hyear, hdays, hday, hlast⟩ := exists_cycles days
  refine ⟨day, by rwa [hyear], ?_⟩
  rw [hyear]
  split
  · exact Nat.lt_succ_of_le hday
  · rename_i hcommon
    have hne : day ≠ 365 := mt hlast (mt c.isLeap_toYear.mpr hcommon)
    omega

theorem yearOf_bounds (days : Int) :
    400 * (days / 146097) < yearOf days ∧ yearOf days ≤ 400 * (days / 146097) + 400 := by
  obtain ⟨c, -, hera, hyear, -⟩ := exists_cycles days
  have hcentury := c.century_mem
  have hfour := c.four_mem
  have hmem := c.year_mem
  rw [hyear, Cycles.toYear, hera]
  omega

theorem monthAndDay_eq {lengths : List Nat} {rest : Nat} (month : Nat)
    (h : rest < lengths.foldr (· + ·) 0) :
    ∃ k day, k < lengths.length ∧ day < lengths.getD k 0 ∧
      rest = (lengths.take k).foldr (· + ·) 0 + day ∧
      monthAndDay lengths month rest = (month + k, day + 1) := by
  induction lengths generalizing month rest with
  | nil => exact absurd h (Nat.not_lt_zero rest)
  | cons length lengths ih =>
      by_cases hrest : rest < length
      · refine ⟨0, rest, by simp, by simpa using hrest, by simp, ?_⟩
        rw [monthAndDay, if_pos hrest]
        rfl
      · rw [List.foldr_cons] at h
        have hrest' : rest - length < lengths.foldr (· + ·) 0 := by omega
        obtain ⟨k, day, hk, hday, heq, hmonth⟩ := ih (month + 1) hrest'
        refine ⟨k + 1, day, by simpa using hk, by simpa using hday, ?_, ?_⟩
        · rw [List.take_succ_cons, List.foldr_cons]
          omega
        · rw [monthAndDay, if_neg hrest, hmonth]
          congr 1
          omega

theorem length_monthLengths (leap : Bool) : (monthLengths leap).length = 12 :=
  rfl

theorem foldr_monthLengths (leap : Bool) :
    (monthLengths leap).foldr (· + ·) 0 = if leap then 366 else 365 := by
  cases leap <;> rfl

theorem daysInMonth_le (year : Int) (month : Nat) : daysInMonth year month ≤ 31 := by
  have hle : ∀ leap, ∀ length ∈ monthLengths leap, length ≤ 31 := by decide
  rw [daysInMonth, List.getD_eq_getElem?_getD]
  rcases hlength : (monthLengths (isLeap year))[month - 1]? with _ | length
  · exact Nat.zero_le 31
  · exact hle _ length (List.mem_of_getElem? hlength)

namespace Date

theorem year_ofDays (days : Int) : (ofDays days).year = yearOf (days + daysBefore1970) :=
  rfl

theorem ofDays_spec (days : Int) : (ofDays days).IsValid ∧ (ofDays days).toDays = days := by
  obtain ⟨n, hn⟩ : ∃ n, n = days + daysBefore1970 := ⟨_, rfl⟩
  obtain ⟨rest, hdays, hrest⟩ := exists_dayOfYear n
  rw [← foldr_monthLengths] at hrest
  obtain ⟨k, day, hk, hday, hrest', hmonth⟩ := monthAndDay_eq 1 hrest
  rw [length_monthLengths] at hk
  have hdate : ofDays days = ⟨yearOf n, 1 + k, day + 1⟩ := by
    have htoNat : (n - daysBeforeYear (yearOf n)).toNat = rest := by omega
    simp only [ofDays, ← hn, htoNat, hmonth]
  rw [hdate]
  constructor
  · refine ⟨by simp, ?_, by simp, ?_⟩
    · change 1 + k ≤ 12
      omega
    · simpa only [daysInMonth, Nat.add_sub_cancel_left] using Nat.succ_le_of_lt hday
  · simp only [toDays, daysBeforeMonth, Nat.add_sub_cancel_left, Nat.add_sub_cancel]
    omega

end Date

end Snowflake.Calendar

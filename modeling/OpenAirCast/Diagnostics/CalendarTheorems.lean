/-
Diagnostics.CalendarTheorems — the date of an exported timestamp.

`civilFromDays` starts its years in March, so that a leap day is the last of
one. `civilDate_march` says what it does with such a year and a day of it,
and `civil_calendar` that it walks the calendar.
-/
import OpenAirCast.Diagnostics.Export
import OpenAirCast.Lib.Calendar
import Mathlib.Tactic.IntervalCases

namespace OpenAirCast.Diagnostics

/-! ## Years from March to March -/

/-- Its first of March. -/
def firstOfMarch (year : Int) : Int := 365 * year + year / 4 - year / 100 + year / 400 - 719468

/-- Its February is that of the next year. -/
def yearLength (year : Int) : Nat := if IsLeap (year + 1) then 366 else 365

/-- Its first day, for a month counted from March. -/
def monthStart (k : Nat) : Nat := (153 * k + 2) / 5

/-- The day behind it. The last month ends with the year. -/
def monthEnd (year : Int) (k : Nat) : Nat := if k = 11 then yearLength year else monthStart (k + 1)

def marchDate (year : Int) (k dayOfYear : Nat) : Date where
  year := if k < 10 then year else year + 1
  month := if k < 10 then k + 3 else k - 9
  day := dayOfYear - monthStart k + 1

/-- A day of an era, by the centuries, the leap cycles and the years before
it. -/
structure EraDay (c q r day dayOfEra : Nat) : Prop where
  century : c ≤ 3
  cycle : q ≤ 24
  year : r ≤ 3
  inYear : day < 365 ∨ day = 365 ∧ r = 3 ∧ (q < 24 ∨ c = 3)
  sum : 36524 * c + 1461 * q + 365 * r + day = dayOfEra

variable {c q r day doe : Nat}

theorem EraDay.yearOfEra (h : EraDay c q r day doe) :
    (doe - doe / 1460 + doe / 36524 - doe / 146096) / 365 = 100 * c + 4 * q + r := by
  obtain ⟨hc, hq, hr, hd, hs⟩ := h
  by_cases hl : doe = 146096
  · obtain ⟨rfl, rfl, rfl, rfl⟩ : c = 3 ∧ q = 24 ∧ r = 3 ∧ day = 365 := by omega
    rw [← hs]
  · have he : doe / 146096 = 0 := Nat.div_eq_of_lt (by omega)
    have hn : doe / 36524 = c := Nat.div_eq_of_lt_le (by omega) (by omega)
    rw [he, hn]
    exact Nat.div_eq_of_lt_le (by omega) (by omega)

theorem EraDay.yearStart (h : EraDay c q r day doe) :
    365 * (100 * c + 4 * q + r) + (100 * c + 4 * q + r) / 4 - (100 * c + 4 * q + r) / 100 + day
      = doe := by
  obtain ⟨-, hq, hr, -, hs⟩ := h
  have hf : (100 * c + 4 * q + r) / 4 = 25 * c + q := Nat.div_eq_of_lt_le (by omega) (by omega)
  have hc : (100 * c + 4 * q + r) / 100 = c := Nat.div_eq_of_lt_le (by omega) (by omega)
  omega

variable {year : Int}

theorem eraDay (h : day < yearLength year) : ∃ (era : Int) (c q r doe : Nat),
    EraDay c q r day doe ∧ year = 400 * era + 100 * c + 4 * q + r ∧
      firstOfMarch year + day + 719468 = 146097 * era + doe := by
  obtain ⟨era, c, q, r, hc, hq, hr, rfl⟩ : ∃ (era : Int) (c q r : Nat),
      c ≤ 3 ∧ q ≤ 24 ∧ r ≤ 3 ∧ year = 400 * era + 100 * c + 4 * q + r :=
    ⟨year / 400, (year % 400 / 100).toNat, (year % 100 / 4).toNat, (year % 4).toNat,
      by omega, by omega, by omega, by omega⟩
  refine ⟨era, c, q, r, _, ⟨hc, hq, hr, ?_, rfl⟩, rfl, ?_⟩
  · unfold yearLength at h
    split at h
    · rename_i hl
      unfold IsLeap at hl
      omega
    · exact .inl h
  · have hf : (400 * era + 100 * c + 4 * q + r) / 4 = 100 * era + 25 * c + q := by omega
    have hn : (400 * era + 100 * c + 4 * q + r) / 100 = 4 * era + c := by omega
    have he : (400 * era + 100 * c + 4 * q + r) / 400 = era := by omega
    unfold firstOfMarch
    omega

/-- A division that rounds to zero, made to round down. -/
theorem era_tdiv (era : Int) (h : doe < 146097) : (if 0 ≤ 146097 * era + (doe : Int) then
    146097 * era + (doe : Int) else 146097 * era + doe - 146096).tdiv 146097 = era := by
  split
  · rw [Int.tdiv_eq_ediv_of_nonneg (by assumption)]
    omega
  · rw [← Int.neg_neg (_ - _), Int.neg_tdiv, Int.tdiv_eq_ediv_of_nonneg (by omega)]
    omega

def civilDate (days : Int) : Date where
  year := (civilFromDays days).1
  month := (civilFromDays days).2.1
  day := (civilFromDays days).2.2

theorem civilDate_march (h : day < yearLength year) :
    civilDate (firstOfMarch year + day) = marchDate year ((5 * day + 2) / 153) day := by
  obtain ⟨era, c, q, r, doe, hin, rfl, hshift⟩ := eraDay h
  obtain ⟨hlt, hm⟩ : doe < 146097 ∧ (5 * day + 2) / 153 < 12 := by
    obtain ⟨hc, hq, hr, ha, hs⟩ := hin
    omega
  have hd : (146097 * era + (doe : Int) - era * 146097).toNat = doe := by omega
  have hy := Nat.sub_eq_of_eq_add' hin.yearStart.symm
  have hyr : ((100 * c + 4 * q + r : Nat) : Int) + era * 400
      = 400 * era + 100 * c + 4 * q + r := by omega
  simp only [civilDate, civilFromDays, hshift, era_tdiv era hlt, hd, hin.yearOfEra, hy, hyr,
    marchDate, monthStart]
  congr 1
  -- January and February are months of the next year
  by_cases ht : (5 * day + 2) / 153 < 10
  · rw [if_pos ht, if_pos ht, if_neg (by omega)]
  · rw [if_neg ht, if_neg ht, if_pos (by omega)]

theorem firstOfMarch_succ (year : Int) :
    firstOfMarch (year + 1) = firstOfMarch year + yearLength year := by
  unfold firstOfMarch yearLength
  by_cases h : IsLeap (year + 1)
  · rw [if_pos h]
    unfold IsLeap at h
    omega
  · rw [if_neg h]
    unfold IsLeap at h
    omega

theorem yearLength_cases (year : Int) : yearLength year = 365 ∨ yearLength year = 366 := by
  unfold yearLength
  split
  · exact .inr rfl
  · exact .inl rfl

/-- Every day is one of such a year. -/
theorem exists_march (days : Int) : ∃ (year : Int) (day : Nat), day < yearLength year ∧
    days = firstOfMarch year + day := by
  induction days using Int.induction_on with
  | zero => exact ⟨1969, 306, by decide, rfl⟩
  | succ n ih =>
    obtain ⟨year, day, h, hn⟩ := ih
    rcases Nat.lt_or_eq_of_le (Nat.succ_le_of_lt h) with hin | he
    · exact ⟨year, day + 1, hin, by omega⟩
    · have hs := firstOfMarch_succ year
      have hlen := yearLength_cases (year + 1)
      exact ⟨year + 1, 0, by omega, by omega⟩
  | pred n ih =>
    obtain ⟨year, day, h, hn⟩ := ih
    cases day with
    | succ day => exact ⟨year, day, Nat.lt_of_succ_lt h, by omega⟩
    | zero =>
      have hs := firstOfMarch_succ (year - 1)
      rw [Int.sub_add_cancel] at hs
      have hlen := yearLength_cases (year - 1)
      exact ⟨year - 1, yearLength (year - 1) - 1, by omega, by omega⟩

/-! ## The calendar -/

variable {k : Nat}

/-- The months of such a year have the lengths of the calendar. -/
theorem daysInMonth_march (year : Int) (hk : k < 12) :
    daysInMonth (marchDate year k day).year (marchDate year k day).month
      = monthEnd year k - monthStart k := by
  unfold marchDate monthEnd monthStart yearLength daysInMonth
  interval_cases k <;> simp
  split <;> rfl

theorem month_of_day (h : day < yearLength year) :
    (5 * day + 2) / 153 < 12 ∧ monthStart ((5 * day + 2) / 153) ≤ day ∧
      day < monthEnd year ((5 * day + 2) / 153) := by
  have hlen := yearLength_cases year
  unfold monthEnd monthStart
  refine ⟨by omega, by omega, ?_⟩
  split
  · exact h
  · omega

theorem month_of_next (h : day + 1 < yearLength year) :
    (5 * (day + 1) + 2) / 153 = (5 * day + 2) / 153 +
      if day + 1 < monthEnd year ((5 * day + 2) / 153) then 0 else 1 := by
  have hlen := yearLength_cases year
  unfold monthEnd monthStart
  by_cases hl : (5 * day + 2) / 153 = 11
  · rw [if_pos hl, if_pos h]
    omega
  · rw [if_neg hl]
    split <;> omega

theorem marchDate_valid (hk : k < 12) (hl : monthStart k ≤ day)
    (hh : day < monthEnd year k) : (marchDate year k day).Valid := by
  refine ⟨?_, Nat.le_add_left _ _, ?_⟩
  · unfold marchDate
    split <;> simp <;> omega
  · rw [daysInMonth_march year hk]
    simp only [marchDate]
    omega

theorem marchDate_next (hk : k < 12) (hl : monthStart k ≤ day)
    (hh : day < monthEnd year k) : (marchDate year k day).next =
      if day + 1 < monthEnd year k then marchDate year k (day + 1)
      else if k = 11 then marchDate (year + 1) 0 0 else marchDate year (k + 1) (day + 1) := by
  have hin : (marchDate year k day).day < monthEnd year k - monthStart k ↔
      day + 1 < monthEnd year k := by
    simp only [marchDate]
    omega
  unfold Date.next
  simp only [daysInMonth_march year hk, hin]
  split
  · simp only [marchDate]
    congr 1
    omega
  · unfold marchDate
    interval_cases k <;> simp [monthEnd, monthStart] at *
    all_goals omega

theorem civil_calendar : Calendar civilDate where
  epoch := by decide
  valid days := by
    obtain ⟨year, day, h, rfl⟩ := exists_march days
    obtain ⟨hk, hl, hh⟩ := month_of_day h
    rw [civilDate_march h]
    exact marchDate_valid hk hl hh
  next days := by
    obtain ⟨year, day, h, rfl⟩ := exists_march days
    obtain ⟨hk, hl, hh⟩ := month_of_day h
    rw [civilDate_march h, marchDate_next hk hl hh]
    rcases Nat.lt_or_eq_of_le (Nat.succ_le_of_lt h) with hin | he
    · have hc : firstOfMarch year + day + 1 = firstOfMarch year + (day + 1 : Nat) := by omega
      rw [hc, civilDate_march hin, month_of_next hin]
      split
      · rfl
      · rename_i hm
        have hs : (5 * day + 2) / 153 ≠ 11 := by
          intro hs
          rw [hs, monthEnd, if_pos rfl] at hm
          exact hm hin
        rw [if_neg hs]
    · have hf : firstOfMarch year + day + 1 = firstOfMarch (year + 1) + (0 : Nat) := by
        have hsc := firstOfMarch_succ year
        omega
      have hlen := yearLength_cases year
      rw [hf, civilDate_march (by have := yearLength_cases (year + 1); omega)]
      have hm : (5 * day + 2) / 153 = 11 := by omega
      rw [hm, monthEnd, if_pos rfl, if_neg (by omega), if_pos rfl]

end OpenAirCast.Diagnostics

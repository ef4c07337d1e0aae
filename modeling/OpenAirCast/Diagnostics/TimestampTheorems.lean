/-
Diagnostics.TimestampTheorems — an exported timestamp is the real
date, and timestamps are ordered as text.

Fields of a fixed width compare as their numbers do (`Less.render_lt`), so
what is left is that the fields of a later time are later
(`stampOf_less`).
-/
import OpenAirCast.Diagnostics.CalendarTheorems
import OpenAirCast.Timing.OffsetTheorems

namespace OpenAirCast.Diagnostics

open List Option
open Timing (FitsI64)

/-! ## Fields of a fixed width -/

def digits : Nat → Nat → List Char
  | 0, _ => []
  | width + 1, n => digits width (n / 10) ++ [Nat.digitChar (n % 10)]

@[simp] theorem length_digits (width : Nat) : ∀ n, (digits width n).length = width := by
  induction width with
  | zero => exact fun _ => rfl
  | succ _ ih => simp [digits, ih]

theorem digits_zero (width : Nat) : digits width 0 = replicate width '0' := by
  induction width with
  | zero => rfl
  | succ width ih =>
    rw [digits, Nat.zero_div, ih, replicate_succ']
    rfl

theorem zeroPadded_digits {width n : Nat} (hw : 0 < width) (h : n < 10 ^ width) :
    (zeroPadded width n).toList = digits width n := by
  have hp : (zeroPadded width n).toList
      = replicate (width - (Nat.toDigits 10 n).length) '0' ++ Nat.toDigits 10 n := by
    simp [zeroPadded, ← String.length_toList]
  rw [hp]
  clear hp
  induction width, hw using Nat.le_induction generalizing n with
  | base =>
    have hn : n < 10 := h
    rw [Nat.toDigits_of_lt_base hn, digits, digits, Nat.mod_eq_of_lt hn]
    rfl
  | succ width hw ih =>
    rw [digits, Nat.toDigits_eq_if (by decide)]
    split
    · rename_i hn
      rw [Nat.div_eq_of_lt hn, Nat.mod_eq_of_lt hn, digits_zero]
      rfl
    · have hd : n / 10 < 10 ^ width := by
        rw [Nat.pow_succ] at h
        omega
      rw [← ih hd, length_append, length_singleton, Nat.add_sub_add_right, append_assoc]

theorem append_lt_append {a b c d : List Char} (hlen : a.length = b.length) (h : a < b) :
    a ++ c < b ++ d := by
  induction a generalizing b with
  | nil => rw [length_eq_zero_iff.mp hlen.symm] at h; exact absurd h (lt_irrefl _)
  | cons x a ih =>
    cases b with
    | nil => cases hlen
    | cons y b =>
      rcases cons_lt_cons_iff.mp h with hlt | ⟨rfl, hlt⟩
      · exact cons_lt_cons_iff.mpr (.inl hlt)
      · exact cons_lt_cons_iff.mpr (.inr ⟨rfl, ih (Nat.succ.inj hlen) hlt⟩)

theorem digits_lt {width n m : Nat} (h : n < m) (hm : m < 10 ^ width) :
    digits width n < digits width m := by
  induction width generalizing n m with
  | zero => omega
  | succ width ih =>
    rw [digits, digits]
    rcases Nat.lt_or_eq_of_le (Nat.div_le_div_right (c := 10) h.le) with hlt | heq
    · exact append_lt_append (by simp) (ih hlt (by rw [Nat.pow_succ] at hm; omega))
    · rw [heq]
      refine append_left_lt (cons_lt_cons_iff.mpr (.inl ?_))
      have hn := Nat.toNat_digitChar_of_lt_ten (Nat.mod_lt n (by decide : 10 > 0))
      have hm := Nat.toNat_digitChar_of_lt_ten (Nat.mod_lt m (by decide : 10 > 0))
      rw [Char.lt_def, UInt32.lt_iff_toNat_lt]
      change Char.toNat _ < Char.toNat _
      omega

/-- Width and value of a field, and what stands behind it. -/
abbrev Field := Nat × Nat × Char

def render : List Field → List Char
  | [] => []
  | (width, n, c) :: rest => digits width n ++ c :: render rest

/-- The first field that differs is less. -/
inductive Less : List Field → List Field → Prop
  | here {width n m : Nat} {c : Char} {fields fields' : List Field} (h : n < m)
      (hm : m < 10 ^ width) : Less ((width, n, c) :: fields) ((width, m, c) :: fields')
  | later {field : Field} {fields fields' : List Field} (h : Less fields fields') :
      Less (field :: fields) (field :: fields')

theorem Less.render_lt {fields fields' : List Field} (h : Less fields fields') :
    render fields < render fields' := by
  induction h with
  | here h hm => exact append_lt_append (by simp) (digits_lt h hm)
  | later _ ih => exact append_left_lt (cons_lt_cons_iff.mpr (.inr ⟨rfl, ih⟩))

/-! ## The timestamp of a time -/

/-- A date and a time of day. -/
structure Stamp where
  date : Date
  hour : Nat
  minute : Nat
  second : Nat
  nanos : Nat

namespace Stamp

/-- A time of day on a date of four digits. -/
structure Valid (stamp : Stamp) : Prop where
  date : stamp.date.Valid
  year : 0 ≤ stamp.date.year ∧ stamp.date.year ≤ 9999
  hour : stamp.hour < 24
  minute : stamp.minute < 60
  second : stamp.second < 60
  nanos : stamp.nanos < 1000000000

variable (stamp : Stamp)

def fields : List Field :=
  [(4, stamp.date.year.toNat, '-'), (2, stamp.date.month, '-'), (2, stamp.date.day, 'T'),
    (2, stamp.hour, ':'), (2, stamp.minute, ':'), (2, stamp.second, '.'), (9, stamp.nanos, 'Z')]

/-- `YYYY-MM-DDThh:mm:ss.nnnnnnnnnZ`. -/
def text : String := String.ofList (render stamp.fields)

/-- It is this moment, in nanoseconds since the beginning of 1970. -/
def Denotes (time : SystemTime) : Prop :=
  ∃ days : Int, stamp.date = civilDate days ∧
    (((days * 24 + stamp.hour) * 60 + stamp.minute) * 60 + stamp.second) * 1000000000
      + stamp.nanos = time

end Stamp

variable (time : SystemTime)

def dayOf : Int := time / 1000000000 / 86400

/-- Its year has four digits. -/
def FourDigitYear : Prop :=
  0 ≤ (civilDate (dayOf time)).year ∧ (civilDate (dayOf time)).year ≤ 9999

def stampOf : Stamp where
  date := civilDate (dayOf time)
  hour := (time / 1000000000 % 86400).toNat / 3600
  minute := (time / 1000000000 % 86400).toNat % 3600 / 60
  second := (time / 1000000000 % 86400).toNat % 60
  nanos := (time % 1000000000).toNat

theorem stampOf_denotes : (stampOf time).Denotes time := by
  refine ⟨dayOf time, rfl, ?_⟩
  simp only [stampOf, dayOf]
  omega

variable {time}

theorem stampOf_valid (h : FourDigitYear time) : (stampOf time).Valid where
  date := civil_calendar.valid _
  year := h
  hour := by simp only [stampOf]; omega
  minute := by simp only [stampOf]; omega
  second := by simp only [stampOf]; omega
  nanos := by simp only [stampOf]; omega

/-- Such a year leaves no need to saturate. -/
theorem FourDigitYear.bounds (h : FourDigitYear time) : time.natAbs < 10 ^ 18 * 1000000000 := by
  obtain ⟨year, day, hd, hm⟩ := exists_march (dayOf time)
  have hlen := yearLength_cases year
  unfold FourDigitYear at h
  rw [hm, civilDate_march hd] at h
  unfold marchDate at h
  unfold firstOfMarch dayOf at hm
  simp only at h
  split at h <;> omega

variable {time : Int}

theorem secondsAndNanos_eq (h : time.natAbs < 10 ^ 18 * 1000000000) :
    secondsAndNanos time = (time / 1000000000, (time % 1000000000).toNat) := by
  unfold secondsAndNanos
  by_cases ht : 0 ≤ time
  · simp only [if_pos ht]
    exact Prod.ext (by dsimp only; omega) (by dsimp only; omega)
  · simp only [if_neg ht]
    by_cases hn : time.natAbs % 1000000000 = 0
    · simp only [if_pos hn]
      exact Prod.ext (by dsimp only; omega) (by dsimp only; omega)
    · simp only [if_neg hn]
      exact Prod.ext (by dsimp only; omega) (by dsimp only; omega)

theorem daysInMonth_lt (year : Int) (month : Nat) : daysInMonth year month < 10 ^ 2 := by
  unfold daysInMonth
  split_ifs <;> decide

/-- Every value has room in its field. -/
theorem Stamp.Valid.room {stamp : Stamp} (h : stamp.Valid) :
    ∀ field ∈ stamp.fields, field.2.1 < 10 ^ field.1 := by
  obtain ⟨⟨⟨-, hm⟩, -, hd⟩, ⟨hl, hh⟩, hr, hn, hs, ha⟩ := h
  have hlen := daysInMonth_lt stamp.date.year stamp.date.month
  simp only [Stamp.fields, forall_mem_cons]
  refine ⟨?_, ?_, ?_, ?_, ?_, ?_, ?_, by simp⟩ <;> omega

theorem rfc3339Utc_stampOf (h : FourDigitYear time) : rfc3339Utc time = (stampOf time).text := by
  have hr := (stampOf_valid h).room
  have hpos : ¬ (civilDate (dayOf time)).year < 0 := Int.not_lt.mpr h.1
  have ha : (civilDate (dayOf time)).year.natAbs = (civilDate (dayOf time)).year.toNat := by omega
  have hw : 0 < 2 := by decide
  simp only [Stamp.fields, forall_mem_cons, stampOf, civilDate, dayOf] at hr hpos ha
  obtain ⟨hy, hm, hd, hh, hn, hs, hna, -⟩ := hr
  unfold rfc3339Utc
  rw [secondsAndNanos_eq h.bounds]
  apply String.toList_injective
  simp only [zeroPaddedInt, Stamp.text, Stamp.fields, stampOf, civilDate, dayOf, render,
    String.toList_append, String.toList_ofList, if_neg hpos, ha,
    zeroPadded_digits (by decide) hy, zeroPadded_digits hw hm, zeroPadded_digits hw hd,
    zeroPadded_digits hw hh, zeroPadded_digits hw hn, zeroPadded_digits hw hs,
    zeroPadded_digits (by decide) hna]
  simp

theorem stampOf_less {time' : Int} (h : FourDigitYear time) (h' : FourDigitYear time')
    (hlt : time < time') : Less (stampOf time).fields (stampOf time').fields := by
  have hrm := (stampOf_valid h').room
  simp only [Stamp.fields, forall_mem_cons] at hrm ⊢
  obtain ⟨hyr, ho, hda, hr, hn, hc, ha, -⟩ := hrm
  have hd : dayOf time < dayOf time' ∨ dayOf time = dayOf time' := by
    unfold dayOf
    omega
  rcases hd with hd | hd
  · have hl := h.1
    rcases civil_calendar.before hd with hb | ⟨hy, hb | ⟨hm, hb⟩⟩
    · exact .here (by simp only [stampOf]; omega) hyr
    · simp only [stampOf, hy]
      exact .later (.here hb ho)
    · simp only [stampOf, hy, hm]
      exact .later (.later (.here hb hda))
  · simp only [stampOf, hd] at hr hn hc ha ⊢
    unfold dayOf at hd
    refine .later (.later (.later ?_))
    generalize hs : (time / 1000000000 % 86400).toNat = sec at hr hn hc ha ⊢
    generalize hs' : (time' / 1000000000 % 86400).toNat = sec' at hr hn hc ha ⊢
    have hlater : sec < sec' ∨ sec = sec' ∧
        (time % 1000000000).toNat < (time' % 1000000000).toNat := by
      omega
    rcases hlater with hlater | ⟨rfl, hlater⟩
    · have hparts : sec / 3600 < sec' / 3600 ∨ sec / 3600 = sec' / 3600 ∧
          (sec % 3600 / 60 < sec' % 3600 / 60 ∨
            sec % 3600 / 60 = sec' % 3600 / 60 ∧ sec % 60 < sec' % 60) := by
        omega
      rcases hparts with hp | ⟨hh, hp | ⟨hm, hp⟩⟩
      · exact .here hp hr
      · rw [hh]
        exact .later (.here hp hn)
      · rw [hh, hm]
        exact .later (.later (.here hp hc))
    · exact .later (.later (.later (.here hlater ha)))

/-! ## No overflow -/

def i64 (x : Int) : Option Int := if FitsI64 x then some x else none

def u64 (n : Nat) : Option Nat := if n < 2 ^ 64 then some n else none

def subU64 (a b : Nat) : Option Nat := if b ≤ a then some (a - b) else none

/-- `year_of_era`. -/
def checkedYearOfEra (dayOfEra : Nat) : Option Nat := do
  let yearDays ← u64 ((← subU64 dayOfEra (dayOfEra / 1460)) + dayOfEra / 36524)
  return (← subU64 yearDays (dayOfEra / 146096)) / 365

/-- `day_of_year`. -/
def checkedDayOfYear (dayOfEra yearOfEra : Nat) : Option Nat := do
  let leapDays ← u64 ((← u64 (365 * yearOfEra)) + yearOfEra / 4)
  subU64 dayOfEra (← subU64 leapDays (yearOfEra / 100))

/-- `month` and `day`. -/
def checkedMonthAndDay (dayOfYear : Nat) : Option (Nat × Nat) := do
  let monthPosition := (← u64 ((← u64 (5 * dayOfYear)) + 2)) / 153
  let monthDays ← u64 ((← u64 (153 * monthPosition)) + 2)
  let day ← u64 ((← subU64 dayOfYear (monthDays / 5)) + 1)
  let month ← if monthPosition < 10 then u64 (monthPosition + 3) else subU64 monthPosition 9
  return (month, day)

/-- `civilFromDays`, unless an operation leaves its type. -/
def checkedCivilFromDays (days : Int) : Option (Int × Nat × Nat) := do
  let shifted ← i64 (days + 719468)
  let dividend ← i64 (if 0 ≤ shifted then shifted else shifted - 146096)
  let era ← i64 (dividend.tdiv 146097)
  let inEra ← i64 (shifted - (← i64 (era * 146097)))
  let dayOfEra ← if 0 ≤ inEra then some inEra.toNat else none
  let yearOfEra ← checkedYearOfEra dayOfEra
  let year ← i64 (yearOfEra + (← i64 (era * 400)))
  let date ← checkedMonthAndDay (← checkedDayOfYear dayOfEra yearOfEra)
  let year ← if date.1 ≤ 2 then i64 (year + 1) else some year
  return (year, date)

theorem secondsAndNanos_fits (time : Int) : FitsI64 (secondsAndNanos time).1 := by
  unfold secondsAndNanos FitsI64
  dsimp only
  split_ifs <;> dsimp only <;> omega

theorem i64_eq {x : Int} (hl : -9223372036854775808 ≤ x) (hh : x < 9223372036854775808) :
    i64 x = some x :=
  if_pos ⟨hl, hh⟩

theorem u64_eq {n : Nat} (h : n < 18446744073709551616) : u64 n = some n := if_pos h

theorem subU64_eq {a b : Nat} (h : b ≤ a) : subU64 a b = some (a - b) := if_pos h

theorem checkedYearOfEra_eq {doe : Nat} (h : doe < 146097) : checkedYearOfEra doe =
    some ((doe - doe / 1460 + doe / 36524 - doe / 146096) / 365) := by
  unfold checkedYearOfEra
  simp only [bind_eq_bind]
  rw [subU64_eq (by omega), bind_some, u64_eq (by omega), bind_some, subU64_eq (by omega)]
  rfl

theorem checkedMonthAndDay_eq {doy : Nat} (h : doy < 366) : checkedMonthAndDay doy =
    some (if (5 * doy + 2) / 153 < 10 then (5 * doy + 2) / 153 + 3 else (5 * doy + 2) / 153 - 9,
      doy - (153 * ((5 * doy + 2) / 153) + 2) / 5 + 1) := by
  unfold checkedMonthAndDay
  simp only [bind_eq_bind]
  rw [u64_eq (by omega), bind_some, u64_eq (by omega), bind_some,
    u64_eq (by omega), bind_some, u64_eq (by omega), bind_some,
    subU64_eq (by omega), bind_some, u64_eq (by omega), bind_some]
  split
  · rw [u64_eq (by omega)]
    rfl
  · rw [subU64_eq (by omega)]
    rfl

theorem checkedDayOfYear_eq {doe yoe : Nat} (h : yoe < 400)
    (hle : 365 * yoe + yoe / 4 - yoe / 100 ≤ doe) :
    checkedDayOfYear doe yoe = some (doe - (365 * yoe + yoe / 4 - yoe / 100)) := by
  unfold checkedDayOfYear
  simp only [bind_eq_bind]
  rw [u64_eq (by omega), bind_some, u64_eq (by omega), bind_some,
    subU64_eq (by omega), bind_some, subU64_eq hle]

/-- No number of seconds in an `i64` makes an operation overflow. -/
theorem checkedCivilFromDays_eq {seconds : Int} (h : FitsI64 seconds) :
    checkedCivilFromDays (seconds / 86400) = some (civilFromDays (seconds / 86400)) := by
  unfold FitsI64 at h
  obtain ⟨hl, hh⟩ : -106751991167301 ≤ seconds / 86400 ∧ seconds / 86400 ≤ 106751991167300 := by
    omega
  generalize seconds / 86400 = days at hl hh ⊢
  clear h
  obtain ⟨year, day, hd, rfl⟩ := exists_march days
  obtain ⟨era, c, q, r, doe, hin, rfl, hshift⟩ := eraDay hd
  have hy := hin.yearOfEra
  have hstart := hin.yearStart
  obtain ⟨hc, hq, hr, hin, hm⟩ := hin
  have hlt : doe < 146097 := by omega
  have ho := Nat.sub_eq_of_eq_add' hstart.symm
  have hs : 146097 * era + (doe : Int) - era * 146097 = doe := by omega
  have ht := era_tdiv era hlt
  have hv : i64 (if 0 ≤ 146097 * era + (doe : Int) then 146097 * era + (doe : Int)
      else 146097 * era + doe - 146096) = some _ := i64_eq (by split <;> omega) (by split <;> omega)
  unfold checkedCivilFromDays civilFromDays
  simp only [bind_eq_bind, hshift]
  rw [i64_eq (by omega) (by omega), bind_some, hv, bind_some, ht,
    i64_eq (by omega) (by omega), bind_some, i64_eq (by omega) (by omega),
    bind_some, hs, i64_eq (by omega) (by omega), bind_some, if_pos (by omega),
    bind_some, Int.toNat_natCast, checkedYearOfEra_eq hlt, bind_some, hy,
    i64_eq (by omega) (by omega), bind_some, i64_eq (by omega) (by omega),
    bind_some, checkedDayOfYear_eq (by omega) (by omega), bind_some, ho,
    checkedMonthAndDay_eq (by omega), bind_some]
  have hyr : i64 (((100 * c + 4 * q + r : Nat) : Int) + era * 400 + 1) = some _ :=
    i64_eq (by omega) (by omega)
  simp only [hyr]
  split_ifs <;> rfl

/-- Every day has its date. A time of a year with four digits is exported as
its date and its time of day, and such timestamps are ordered as the times
are. -/
theorem timestamps_are_dates : Calendar civilDate ∧ (∀ time : SystemTime, FourDigitYear time →
      ∃ stamp : Stamp, stamp.Valid ∧ stamp.Denotes time ∧ rfc3339Utc time = stamp.text) ∧
    (∀ time time' : SystemTime, FourDigitYear time → FourDigitYear time' →
      (rfc3339Utc time < rfc3339Utc time' ↔ time < time')) ∧
    (∀ time, FitsI64 (secondsAndNanos time).1) ∧
    ∀ seconds, FitsI64 seconds →
      checkedCivilFromDays (seconds / 86400) = some (civilFromDays (seconds / 86400)) := by
  have hlt : ∀ {time time' : Int}, FourDigitYear time → FourDigitYear time' → time < time' →
      rfc3339Utc time < rfc3339Utc time' := by
    intro time time' h h' hlt
    rw [rfc3339Utc_stampOf h, rfc3339Utc_stampOf h', String.lt_iff_toList_lt]
    simpa [Stamp.text] using (stampOf_less h h' hlt).render_lt
  refine ⟨civil_calendar, fun time h => ?_, fun time time' h h' => ⟨fun ht => ?_, hlt h h'⟩,
    secondsAndNanos_fits, fun _ => checkedCivilFromDays_eq⟩
  · exact ⟨stampOf time, stampOf_valid h, stampOf_denotes time, rfc3339Utc_stampOf h⟩
  · rcases Int.lt_trichotomy time time' with hl | rfl | hear
    · exact hl
    · exact absurd ht (lt_irrefl _)
    · exact absurd (ht.trans (hlt h' h hear)) (lt_irrefl _)

end OpenAirCast.Diagnostics

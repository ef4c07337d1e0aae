/-
Lib.Calendar — the proleptic Gregorian calendar.

`Date.next` is all of it: the lengths of the months, the leap years and their
exceptions. A `Calendar` numbers the days with it, in both directions.
-/
import Mathlib.Order.Monotone.Basic

namespace OpenAirCast

/-- Every fourth year, but of the full centuries every fourth. -/
def IsLeap (year : Int) : Prop := year % 4 = 0 ∧ (year % 100 ≠ 0 ∨ year % 400 = 0)

instance (year : Int) : Decidable (IsLeap year) := inferInstanceAs (Decidable (_ ∧ _))

def daysInMonth (year : Int) (month : Nat) : Nat :=
  if month = 2 then (if IsLeap year then 29 else 28)
  else if month = 4 ∨ month = 6 ∨ month = 9 ∨ month = 11 then 30
  else 31

structure Date where
  year : Int
  month : Nat
  day : Nat
  deriving DecidableEq

namespace Date

/-- A day of the calendar. -/
structure Valid (date : Date) : Prop where
  month : 1 ≤ date.month ∧ date.month ≤ 12
  day : 1 ≤ date.day ∧ date.day ≤ daysInMonth date.year date.month

/-- The day after. -/
def next (date : Date) : Date :=
  if date.day < daysInMonth date.year date.month then { date with day := date.day + 1 }
  else if date.month < 12 then { date with month := date.month + 1, day := 1 }
  else { year := date.year + 1, month := 1, day := 1 }

/-- By the year, then by the month, then by the day. -/
def Before (a b : Date) : Prop :=
  a.year < b.year ∨ a.year = b.year ∧ (a.month < b.month ∨ a.month = b.month ∧ a.day < b.day)

theorem before_next (date : Date) : date.Before date.next := by
  unfold next
  split
  · exact .inr ⟨rfl, .inr ⟨rfl, Nat.lt_succ_self _⟩⟩
  · split
    · exact .inr ⟨rfl, .inl (Nat.lt_succ_self _)⟩
    · exact .inl (Int.lt_succ _)

instance : IsTrans Date Before where
  trans a b c hab hbc := by
    unfold Before at *
    omega

end Date

/-- The dates of the days since the first of January 1970. -/
structure Calendar (dates : Int → Date) : Prop where
  epoch : dates 0 = { year := 1970, month := 1, day := 1 }
  valid : ∀ n, (dates n).Valid
  next : ∀ n, dates (n + 1) = (dates n).next

namespace Calendar

variable {dates : Int → Date} (h : Calendar dates)
include h

theorem before {n m : Int} (hlt : n < m) : (dates n).Before (dates m) :=
  Int.rel_of_forall_rel_succ_of_lt Date.Before (fun n => h.next n ▸ (dates n).before_next) hlt

end Calendar

end OpenAirCast

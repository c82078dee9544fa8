import Mathlib.Tactic.Common
import SokoFlow.Foundation.Decimal

/-!
# Dates, wall clocks and instants

Days are counted as Python's `date.toordinal` does, from 1 on 1 January of
year 1 to 31 December 9999.  A wall clock reading and an instant are both
counted in microseconds from the midnight before day 1, the first in some
time zone and the second in UTC.  `none` is Python's `OverflowError`.
-/

namespace Calendar

def maxOrdinal : ℕ := 3652059

/-- A `datetime.date`. -/
structure Date where
  ordinal : ℕ
  valid : 1 ≤ ordinal ∧ ordinal ≤ maxOrdinal
  deriving DecidableEq

namespace Date

def ofOrdinal (n : ℤ) : Option Date :=
  if h : 1 ≤ n ∧ n ≤ maxOrdinal then
    some ⟨n.toNat, by omega, by omega⟩
  else none

/-- `date + timedelta(days=days)` -/
def shift (d : Date) (days : ℤ) : Option Date := ofOrdinal (d.ordinal + days)

/-- Monday is 0. -/
def weekday (d : Date) : ℕ := (d.ordinal + 6) % 7

end Date

def isLeap (year : ℕ) : Bool := year % 4 = 0 && (year % 100 ≠ 0 || year % 400 = 0)

def daysBeforeYear (year : ℕ) : ℕ :=
  let y := year - 1
  y * 365 + y / 4 - y / 100 + y / 400

def daysBeforeMonth (year month : ℕ) : ℕ :=
  [0, 0, 31, 59, 90, 120, 151, 181, 212, 243, 273, 304, 334].getD month 0 +
    (if 2 < month ∧ isLeap year then 1 else 0)

def daysInMonth (year month : ℕ) : ℕ :=
  if month = 2 ∧ isLeap year then 29
  else [0, 31, 28, 31, 30, 31, 30, 31, 31, 30, 31, 30, 31].getD month 0

/-- `date(year, month, day)`; `none` is its `ValueError`. -/
def Date.ofYmd (year month day : ℕ) : Option Date :=
  if 1 ≤ year ∧ year ≤ 9999 ∧ 1 ≤ month ∧ month ≤ 12 ∧ 1 ≤ day ∧ day ≤ daysInMonth year month then
    ofOrdinal (daysBeforeYear year + daysBeforeMonth year month + day : ℕ)
  else none

/-- Year, month and day, by the algorithm of `datetime`: cycles of 400, 100,
4 years and single years, then a guess at the month that may be one too big. -/
def Date.ymd (d : Date) : ℕ × ℕ × ℕ :=
  let n := d.ordinal - 1
  let n400 := n / 146097
  let n := n % 146097
  let n100 := n / 36524
  let n := n % 36524
  let n4 := n / 1461
  let n := n % 1461
  let n1 := n / 365
  let n := n % 365
  let year := n400 * 400 + 1 + n100 * 100 + n4 * 4 + n1
  if n1 = 4 ∨ n100 = 4 then (year - 1, 12, 31)
  else
    let month := (n + 50) / 32
    let preceding := daysBeforeMonth year month
    if n < preceding then
      let month := month - 1
      (year, month, n - (preceding - daysInMonth year month) + 1)
    else (year, month, n - preceding + 1)

/-- `str(date)` -/
def Date.iso (d : Date) : String :=
  let (y, m, day) := d.ymd
  String.ofList (Decimal.padded 4 y ++ '-' :: Decimal.padded 2 m ++ '-' :: Decimal.padded 2 day)

example : ((Date.ofYmd 2024 2 29).map Date.ymd, (Date.ofYmd 2023 2 29).map Date.ymd)
    = (some (2024, 2, 29), none) := by decide

/-! ## Instants -/

def dayLength : ℤ := 86400000000

/-- Wall clock readings `datetime` can hold. -/
def inRange (t : ℤ) : Bool := decide (dayLength ≤ t) && decide (t < (maxOrdinal + 1) * dayLength)

def checked (t : ℤ) : Option ℤ := if inRange t then some t else none

/-- `datetime.combine(date, time.min)` -/
def Date.midnight (d : Date) : ℤ := d.ordinal * dayLength

/-- `datetime.date()` of a wall clock reading. -/
def dateOf (t : ℤ) : Option Date := Date.ofOrdinal (t / dayLength)

/-- `datetime + timedelta(days=days)`, on the wall clock. -/
def addDays (t : ℤ) (days : ℤ) : Option ℤ := checked (t + days * dayLength)

/-- A time zone: its offset from UTC at an instant, and at a wall clock
reading (the earlier one where a reading occurs twice). -/
structure Zone where
  atInstant : ℤ → ℤ
  atReading : ℤ → ℤ

namespace Zone

/-- The zone of a constant offset. -/
def constant (offset : ℤ) : Zone := ⟨fun _ ↦ offset, fun _ ↦ offset⟩

def toLocal (z : Zone) (t : ℤ) : Option ℤ := checked (t + z.atInstant t)

/-- `local.astimezone(ZoneInfo("UTC"))` -/
def toUtc (z : Zone) (t : ℤ) : Option ℤ := checked (t - z.atReading t)

end Zone

end Calendar

import SokoFlow.Analytics.Contracts

/-!
# Reporting periods as intervals (`handlers/utils.py`)

A period becomes the half-open interval between two instants.
-/

namespace SokoFlow.Analytics

open Calendar

def orOverflow {α : Type} : Option α → Except Exc α
  | some a => .ok a
  | none => .error (.other "OverflowError" "date value out of range")

/-- `date(year, month, 1)` -/
def firstOfMonth (year month : ℕ) : Except Exc Date :=
  match Date.ofYmd year month 1 with
  | some d => .ok d
  | none => .error (.other "ValueError" ("year " ++ Text.ofInt year ++ " is out of range"))

/-- Midnight in the zone at the first and after the last day of the period
around `anchor`, as the wall clock shows it. -/
def resolveRelativeLocalBoundaries (period : RelativePeriod) (anchor : Date) :
    Except Exc (ℤ × ℤ) := do
  let (year, month, _) := anchor.ymd
  match period with
  | .day => return (anchor.midnight, ← orOverflow (addDays anchor.midnight 1))
  | .week =>
      let start ← orOverflow (anchor.shift (-anchor.weekday))
      return (start.midnight, ← orOverflow (addDays start.midnight 7))
  | .month =>
      let start ← firstOfMonth year month
      let next ←
        (if month = 12 then firstOfMonth (year + 1) 1 else firstOfMonth year (month + 1))
      return (start.midnight, next.midnight)
  | .year =>
      let start ← firstOfMonth year 1
      let next ← firstOfMonth (year + 1) 1
      return (start.midnight, next.midnight)

/-- `datetime.now(tz).date()` -/
def localToday (zone : Zone) (now : Timestamp) : Except Exc Date := do
  let reading ← orOverflow (zone.toLocal now)
  orOverflow (dateOf reading)

def toUtcBoundaries (zone : Zone) : ℤ × ℤ → Except Exc (Timestamp × Timestamp)
  | (start, stop) => do return (← orOverflow (zone.toUtc start), ← orOverflow (zone.toUtc stop))

def resolvePeriodBoundaries (zone : Zone) (now : Timestamp) (period : ReportingPeriod) :
    Except Exc (Timestamp × Timestamp) := do
  let today ← localToday zone now
  match period with
  | .relative period => do
      let boundaries ← resolveRelativeLocalBoundaries period today
      toUtcBoundaries zone boundaries
  | .dateRange range => do
      let next ← orOverflow (range.endDate.shift 1)
      toUtcBoundaries zone (range.startDate.midnight, next.midnight)

def resolvePreviousPeriodBoundaries (zone : Zone) (now : Timestamp) (period : ReportingPeriod) :
    Except Exc (Timestamp × Timestamp) := do
  match period with
  | .relative period => do
      let today ← localToday zone now
      let (currentStart, _) ← resolveRelativeLocalBoundaries period today
      let first ← orOverflow (dateOf currentStart)
      let lastBefore ← orOverflow (first.shift (-1))
      let boundaries ← resolveRelativeLocalBoundaries period lastBefore
      toUtcBoundaries zone boundaries
  | .dateRange range => do
      let (start, stop) ← resolvePeriodBoundaries zone now (.dateRange range)
      -- as long as the range itself, ending where it starts
      let before ← orOverflow (checked (start - (stop - start)))
      return (before, start)

end SokoFlow.Analytics

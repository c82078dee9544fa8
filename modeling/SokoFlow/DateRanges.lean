import SokoFlow.Periods

/-!
# Ranges at the ends of the calendar

A range of dates becomes an interval in UTC only if the midnights at its ends
can be written there, and the interval before it only if the calendar has as
many days before.
-/

namespace SokoFlow

open Calendar Analytics DbM Effect

/-- The offsets of Nairobi in the time zone database, from its local mean time
to East Africa Time. -/
def NairobiOffsets (zone : Zone) : Prop :=
  ∀ t, 8836000000 ≤ zone.atReading t ∧ zone.atReading t ≤ 10800000000

/-- The wall clock shows a date. -/
def ShowsDay (zone : Zone) (now : Timestamp) : Prop := ∃ today, localToday zone now = .ok today

/-- Boundaries come out, in their order. -/
def Resolves (r : Except Exc (Timestamp × Timestamp)) : Prop :=
  ∃ start stop, r = .ok (start, stop) ∧ start < stop

/-- The range starts after 1 January of year 1 and ends before 31 December 9999. -/
def Analytics.DateRange.InCalendar (range : DateRange) : Prop :=
  1 < range.startDate.ordinal ∧ range.endDate.ordinal < maxOrdinal

/-- The range ends before 31 December 9999, and from 2 January of year 1 on
there are as many days before it as it has. -/
def Analytics.DateRange.HasPrevious (range : DateRange) : Prop :=
  range.endDate.ordinal < maxOrdinal ∧
    range.endDate.ordinal - range.startDate.ordinal + 1 ≤ range.startDate.ordinal - 2

variable {zone : Zone} {now : Timestamp} {range : DateRange}

theorem toUtc_midnight_iff (hz : NairobiOffsets zone) {n : ℕ} {t : ℤ} :
    zone.toUtc (n * dayLength) = some t ↔
      (2 ≤ n ∧ n ≤ maxOrdinal + 1) ∧ t = n * dayLength - zone.atReading (n * dayLength) := by
  obtain ⟨hlow, hhigh⟩ := hz (n * dayLength)
  have hrange : inRange (n * dayLength - zone.atReading (n * dayLength)) = true ↔
      2 ≤ n ∧ n ≤ maxOrdinal + 1 := by
    rw [inRange_iff]
    unfold dayLength maxOrdinal at *
    omega
  unfold Zone.toUtc checked
  rw [Option.ite_none_right_eq_some, hrange, Option.some.injEq, eq_comm (a := t)]

theorem toUtcBoundaries_eq_ok {start stop : ℤ} {i : Timestamp × Timestamp} :
    toUtcBoundaries zone (start, stop) = .ok i ↔
      zone.toUtc start = some i.1 ∧ zone.toUtc stop = some i.2 := by
  obtain ⟨first, last⟩ := i
  unfold toUtcBoundaries
  dsimp only
  cases zone.toUtc start with
  | none => simp [orOverflow]
  | some first' =>
      cases zone.toUtc stop with
      | none => simp [orOverflow]
      | some last' => simp [orOverflow, pure, Except.pure]

/-- The interval of a range, by the offsets at its ends. -/
def Analytics.DateRange.interval (zone : Zone) (range : DateRange) : Timestamp × Timestamp :=
  (range.startDate.ordinal * dayLength - zone.atReading (range.startDate.ordinal * dayLength),
    (range.endDate.ordinal + 1 : ℕ) * dayLength -
      zone.atReading ((range.endDate.ordinal + 1 : ℕ) * dayLength))

theorem interval_ordered (hz : NairobiOffsets zone) (range : DateRange) :
    (range.interval zone).1 < (range.interval zone).2 := by
  have hordered := range.ordered
  have hstart := hz (range.startDate.ordinal * dayLength)
  have hstop := hz ((range.endDate.ordinal + 1 : ℕ) * dayLength)
  change (range.startDate.ordinal : ℤ) * dayLength - _ <
    (range.endDate.ordinal + 1 : ℕ) * dayLength - _
  generalize zone.atReading (range.startDate.ordinal * dayLength) = offset at hstart ⊢
  generalize zone.atReading ((range.endDate.ordinal + 1 : ℕ) * dayLength) = offset' at hstop ⊢
  unfold dayLength
  push_cast
  omega

theorem resolveRange_eq_ok (hz : NairobiOffsets zone) (hnow : ShowsDay zone now)
    {i : Timestamp × Timestamp} :
    resolvePeriodBoundaries zone now (.dateRange range) = .ok i ↔
      range.InCalendar ∧ i = range.interval zone := by
  obtain ⟨today, htoday⟩ := hnow
  have hordered := range.ordered
  have hvalid := range.startDate.valid
  unfold resolvePeriodBoundaries DateRange.InCalendar
  rw [htoday, except_ok_bind]
  dsimp only
  by_cases he : range.endDate.ordinal < maxOrdinal
  · obtain ⟨next, hnext, hordinal⟩ := shift_next _ he
    have hmidnight : next.midnight = (range.endDate.ordinal + 1 : ℕ) * dayLength := by
      rw [Date.midnight, hordinal]
    rw [hnext, orOverflow_some, except_ok_bind, toUtcBoundaries_eq_ok, hmidnight, Date.midnight,
      toUtc_midnight_iff hz, toUtc_midnight_iff hz]
    constructor
    · rintro ⟨⟨hstart, hfirst⟩, -, hlast⟩
      exact ⟨⟨hstart.1, he⟩, Prod.ext hfirst hlast⟩
    · rintro ⟨⟨hstart, -⟩, rfl⟩
      exact ⟨⟨⟨hstart, by omega⟩, rfl⟩, ⟨by omega, by omega⟩, rfl⟩
  · rw [shift_last _ he]
    constructor
    · intro h
      cases h
    · rintro ⟨⟨-, h⟩, -⟩
      exact absurd h he

theorem resolves_iff (hz : NairobiOffsets zone) (hnow : ShowsDay zone now) :
    Resolves (resolvePeriodBoundaries zone now (.dateRange range)) ↔ range.InCalendar := by
  constructor
  · rintro ⟨start, stop, h, -⟩
    exact ((resolveRange_eq_ok hz hnow).mp h).1
  · intro h
    exact ⟨_, _, (resolveRange_eq_ok hz hnow).mpr ⟨h, rfl⟩, interval_ordered hz range⟩

theorem inRange_before_iff (hz : NairobiOffsets zone) (h : range.InCalendar) :
    inRange ((range.interval zone).1 - ((range.interval zone).2 - (range.interval zone).1)) = true ↔
      range.HasPrevious := by
  have hordered := range.ordered
  have hstart := hz (range.startDate.ordinal * dayLength)
  have hstop := hz ((range.endDate.ordinal + 1 : ℕ) * dayLength)
  obtain ⟨hfirst, hlast⟩ := h
  rw [inRange_iff]
  unfold DateRange.interval DateRange.HasPrevious
  dsimp only
  generalize zone.atReading (range.startDate.ordinal * dayLength) = offset at hstart ⊢
  generalize zone.atReading ((range.endDate.ordinal + 1 : ℕ) * dayLength) = offset' at hstop ⊢
  unfold dayLength maxOrdinal at *
  push_cast
  omega

theorem inCalendar_of_hasPrevious (h : range.HasPrevious) : range.InCalendar := by
  have hordered := range.ordered
  obtain ⟨hlast, hdays⟩ := h
  exact ⟨by omega, hlast⟩

theorem resolvePreviousRange_eq_ok (hz : NairobiOffsets zone) (hnow : ShowsDay zone now)
    {i : Timestamp × Timestamp} :
    resolvePreviousPeriodBoundaries zone now (.dateRange range) = .ok i ↔ range.HasPrevious ∧
      i = ((range.interval zone).1 - ((range.interval zone).2 - (range.interval zone).1),
        (range.interval zone).1) := by
  unfold resolvePreviousPeriodBoundaries
  dsimp only
  constructor
  · intro h
    cases hi : resolvePeriodBoundaries zone now (.dateRange range) with
    | error e =>
        rw [hi] at h
        cases h
    | ok current =>
        obtain ⟨hin, rfl⟩ := (resolveRange_eq_ok hz hnow).mp hi
        rw [hi, except_ok_bind, checked] at h
        rw [← inRange_before_iff hz hin]
        split at h
        · cases h
          exact ⟨‹_›, rfl⟩
        · cases h
  · rintro ⟨h, rfl⟩
    have hin := inCalendar_of_hasPrevious h
    rw [(resolveRange_eq_ok hz hnow).mpr ⟨hin, rfl⟩, except_ok_bind]
    rw [checked, if_pos ((inRange_before_iff hz hin).mpr h)]
    rfl

theorem resolvesPrevious_iff (hz : NairobiOffsets zone) (hnow : ShowsDay zone now) :
    Resolves (resolvePreviousPeriodBoundaries zone now (.dateRange range)) ↔ range.HasPrevious := by
  constructor
  · rintro ⟨start, stop, h, -⟩
    exact ((resolvePreviousRange_eq_ok hz hnow).mp h).1
  · intro h
    have hordered := interval_ordered hz range
    refine ⟨_, _, (resolvePreviousRange_eq_ok hz hnow).mpr ⟨h, rfl⟩, ?_⟩
    linarith

/-! ## The trend -/

variable {dep : Deployment} {b : Backend} {shopId : UUID}

/-- The boundaries a trend compares with: those of the other period, or of the one before. -/
def resolveComparison (zone : Zone) (now : Timestamp) (period : ReportingPeriod) :
    Option ReportingPeriod → Except Exc (Timestamp × Timestamp)
  | some comparison => resolvePeriodBoundaries zone now comparison
  | none => resolvePreviousPeriodBoundaries zone now period

theorem comparisonBoundaries_eq_ok {period : ReportingPeriod} {comparison : Option ReportingPeriod}
    {i : Timestamp × Timestamp} {b' : Backend} :
    comparisonBoundaries dep period comparison b = .ok i b' ↔
      resolveComparison dep.nairobi (b.env.clock b.tick) period comparison = .ok i ∧
        b' = { b with tick := b.tick + 1 } := by
  cases comparison with
  | some other => exact boundaries_eq_ok
  | none =>
      have hnow : (now : DbM Timestamp) b = .ok (b.env.clock b.tick) { b with tick := b.tick + 1 } :=
        ask_apply _ _
      change previousBoundaries dep period b = _ ↔ _
      unfold previousBoundaries
      rw [bind_of_ok hnow]
      exact ofExcept_eq_ok

theorem handleGetSalesTrend_returns {period : ReportingPeriod} {comparison : Option ReportingPeriod}
    (hf : b.env.Faultless) (ha : b.aborted = false) :
    (∃ out b', handleGetSalesTrend dep shopId period comparison b = .ok out b') ↔
      (∃ i, resolvePeriodBoundaries dep.nairobi (b.env.clock b.tick) period = .ok i) ∧
        ∃ j, resolveComparison dep.nairobi (b.env.clock (b.tick + 1)) period comparison = .ok j := by
  constructor
  · rintro ⟨out, b', h⟩
    obtain ⟨i, b₁, hi, h⟩ := bind_eq_ok.mp h
    obtain ⟨hcurrent, rfl⟩ := boundaries_eq_ok.mp hi
    obtain ⟨j, b₂, hj, -⟩ := bind_eq_ok.mp h
    exact ⟨⟨i, hcurrent⟩, j, (comparisonBoundaries_eq_ok.mp hj).1⟩
  · rintro ⟨⟨i, hi⟩, j, hj⟩
    have hcurrent : boundaries dep period b = .ok i { b with tick := b.tick + 1 } :=
      boundaries_eq_ok.mpr ⟨hi, rfl⟩
    have hprevious : comparisonBoundaries dep period comparison { b with tick := b.tick + 1 } =
        .ok j { b with tick := b.tick + 1 + 1 } :=
      comparisonBoundaries_eq_ok.mpr ⟨hj, rfl⟩
    obtain ⟨b₁, h₁, hf₁, ha₁⟩ := select_returns (b := { b with tick := b.tick + 1 + 1 })
      (SalesRepository.totalRevenueAndCount shopId i.1 i.2) hf ha
    obtain ⟨b₂, h₂, -, -⟩ := select_returns
      (SalesRepository.totalRevenueAndCount shopId j.1 j.2) hf₁ ha₁
    unfold handleGetSalesTrend
    rw [bind_of_ok hcurrent, bind_of_ok hprevious]
    exact ⟨_, b₂, (bind_of_ok h₁).trans ((bind_of_ok h₂).trans rfl)⟩

theorem trend_resolves_iff (hz : NairobiOffsets zone) (hnow : ShowsDay zone now) (range : DateRange)
    (comparison : Option DateRange) :
    (∃ j, resolveComparison zone now (.dateRange range) (comparison.map .dateRange) = .ok j) ↔
      comparison.elim range.HasPrevious DateRange.InCalendar := by
  cases comparison with
  | some other =>
      constructor
      · rintro ⟨j, h⟩
        exact ((resolveRange_eq_ok hz hnow).mp h).1
      · intro h
        exact ⟨_, (resolveRange_eq_ok hz hnow).mpr ⟨h, rfl⟩⟩
  | none =>
      constructor
      · rintro ⟨j, h⟩
        exact ((resolvePreviousRange_eq_ok hz hnow).mp h).1
      · intro h
        exact ⟨_, (resolvePreviousRange_eq_ok hz hnow).mpr ⟨h, rfl⟩⟩

/-- A validated range is resolved if it does not touch the ends of the
calendar, the range before it if there are days enough before it; the trend of
a range needs one of these for each interval. -/
theorem date_ranges_resolve_iff (hz : NairobiOffsets dep.nairobi) (hf : b.env.Faultless)
    (ha : b.aborted = false) (hnow : ShowsDay dep.nairobi (b.env.clock b.tick))
    (hnext : ShowsDay dep.nairobi (b.env.clock (b.tick + 1))) (shopId : UUID) (range : DateRange)
    (comparison : Option DateRange) :
    (Resolves (resolvePeriodBoundaries dep.nairobi (b.env.clock b.tick) (.dateRange range)) ↔
      range.InCalendar) ∧
    (Resolves (resolvePreviousPeriodBoundaries dep.nairobi (b.env.clock b.tick) (.dateRange range)) ↔
      range.HasPrevious) ∧
    ((∃ out b', handleGetSalesTrend dep shopId (.dateRange range) (comparison.map .dateRange) b =
        .ok out b') ↔
      range.InCalendar ∧ comparison.elim range.HasPrevious DateRange.InCalendar) := by
  refine ⟨resolves_iff hz hnow, resolvesPrevious_iff hz hnow, ?_⟩
  rw [handleGetSalesTrend_returns hf ha, trend_resolves_iff hz hnext range]
  apply and_congr_left
  intro _
  exact trend_resolves_iff hz hnow range (some range)

theorem nairobiOffsets_sample : NairobiOffsets Deployment.sample.nairobi := by
  intro t
  change (8836000000 : ℤ) ≤ 10800000000 ∧ (10800000000 : ℤ) ≤ 10800000000
  omega

theorem showsDay_sample {now : Timestamp} (h : InScope now) : ShowsDay Deployment.sample.nairobi now := by
  obtain ⟨hlow, hhigh⟩ := h
  have hstart : midnightUtc 715510 ≤ now := (midnightUtc_le.mpr (by omega)).trans hlow
  have hstop : now < midnightUtc 3651698 := hhigh.trans_le (midnightUtc_le.mpr (by omega))
  obtain ⟨today, h, -⟩ := localToday_ok eastAfrica_sample hstart hstop
  exact ⟨today, h⟩

theorem date_ranges_resolve_weekend :
    Resolves (resolvePeriodBoundaries Deployment.sample.nairobi (Env.calm.clock 0)
      (.dateRange weekend)) ∧
    Resolves (resolvePreviousPeriodBoundaries Deployment.sample.nairobi (Env.calm.clock 0)
      (.dateRange weekend)) ∧
    ∃ out b', handleGetSalesTrend .sample ⟨1⟩ (.dateRange weekend) none (.connect .calm market) =
      .ok out b' := by
  have hnow : ShowsDay Deployment.sample.nairobi (Env.calm.clock 0) :=
    showsDay_sample ⟨by decide, by decide⟩
  have hnext : ShowsDay Deployment.sample.nairobi (Env.calm.clock 1) :=
    showsDay_sample ⟨by decide, by decide⟩
  have hin : weekend.InCalendar := ⟨by decide, by decide⟩
  have hprevious : weekend.HasPrevious := ⟨by decide, by decide⟩
  obtain ⟨hcurrent, hbefore, htrend⟩ := @date_ranges_resolve_iff .sample (.connect .calm market)
    nairobiOffsets_sample Env.calm_faultless rfl hnow hnext ⟨1⟩ weekend none
  exact ⟨hcurrent.mpr hin, hbefore.mpr hprevious, htrend.mpr ⟨hin, hprevious⟩⟩

theorem newYear_valid : 1 ≤ 738886 ∧ 738886 ≤ maxOrdinal := by decide

/-- 1 January 2024 -/
def newYear : Date := ⟨738886, newYear_valid⟩

/-- From 1 January of year 1 to 1 January 2024. -/
def sinceYearOne : DateRange := ⟨⟨1, by decide⟩, newYear, by decide⟩

/-- From 1 January 2024 to 31 December 9999. -/
def untilTheEnd : DateRange := ⟨newYear, ⟨3652059, by decide⟩, by decide⟩

/-- From 1 January 1000 to 1 January 2024. -/
def millennium : DateRange := ⟨⟨364878, by decide⟩, newYear, by decide⟩

/-- Ranges at either end overflow, and so does what comes before a long one. -/
theorem ranges_overflow :
    resolvePeriodBoundaries Deployment.sample.nairobi (Env.calm.clock 0) (.dateRange sinceYearOne) =
      .error (.other "OverflowError" "date value out of range") ∧
    resolvePeriodBoundaries Deployment.sample.nairobi (Env.calm.clock 0) (.dateRange untilTheEnd) =
      .error (.other "OverflowError" "date value out of range") ∧
    resolvePreviousPeriodBoundaries Deployment.sample.nairobi (Env.calm.clock 0)
      (.dateRange millennium) = .error (.other "OverflowError" "date value out of range") :=
  ⟨by decide +kernel, by decide +kernel, by decide +kernel⟩

end SokoFlow

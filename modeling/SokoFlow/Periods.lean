import SokoFlow.DailySummary
import SokoFlow.Foundation.Months

/-!
# Reporting periods tile the calendar

Days, weeks, months and years are the cells of their first days, so the
interval of a period is the same for every time in it, and the interval before
it is the one for every time before.
-/

namespace SokoFlow

open Calendar Analytics Tiling

/-- The ordinals of the first days of a kind of period. -/
def marks : RelativePeriod → ℕ → ℕ
  | .day => id
  | .week => fun k ↦ 7 * k + 1
  | .month => monthStart
  | .year => yearStart

/-- A period of this kind starts on this date: a week on Monday. -/
def StartsOn (p : RelativePeriod) (d : Date) : Prop :=
  match p with
  | .day => True
  | .week => d.weekday = 0
  | .month => d.ymd.2.2 = 1
  | .year => d.ymd.2 = (1, 1)

theorem startsOn_iff (p : RelativePeriod) (d : Date) :
    StartsOn p d ↔ d.ordinal ∈ Set.range (marks p) := by
  have hsplits := ymd_splits d
  cases p with
  | day => exact iff_of_true trivial ⟨d.ordinal, rfl⟩
  | week =>
      have hpos := d.valid.1
      change (d.ordinal + 6) % 7 = 0 ↔ ∃ k, 7 * k + 1 = d.ordinal
      constructor
      · intro h
        exact ⟨(d.ordinal - 1) / 7, by omega⟩
      · rintro ⟨k, hk⟩
        omega
  | month => exact hsplits.day_eq_one_iff
  | year =>
      have hpair : d.ymd.2 = (1, 1) ↔ d.ymd.2.1 = 1 ∧ d.ymd.2.2 = 1 := Prod.ext_iff
      exact hpair.trans hsplits.new_year_iff

/-! ## The local interval of a date -/

theorem firstOfMonth_ok {year month : ℕ} (hy : 1 ≤ year) (hm : 1 ≤ month) (hm' : month ≤ 12)
    (h : monthStart (12 * (year - 1) + (month - 1)) ≤ maxOrdinal) :
    ∃ d, firstOfMonth year month = .ok d ∧
      d.midnight = monthStart (12 * (year - 1) + (month - 1)) * dayLength := by
  have hstart := monthStart_of hy hm hm'
  have hlast : year ≤ 9999 := by
    by_contra hlt
    have hmono : yearStart 9999 ≤ monthStart (12 * (year - 1) + (month - 1)) := by
      rw [yearStart_eq_monthStart]
      exact monthStart_strictMono.monotone (by omega)
    have hyear : yearStart 9999 = maxOrdinal + 1 := by decide
    omega
  have hday : 1 ≤ daysInMonth year month := daysInMonth_pos year hm hm'
  have hvalid : 1 ≤ daysBeforeYear year + daysBeforeMonth year month + 1 ∧
      daysBeforeYear year + daysBeforeMonth year month + 1 ≤ maxOrdinal := by omega
  have hymd : Date.ofYmd year month 1 = some ⟨_, hvalid⟩ := by
    unfold Date.ofYmd
    rw [if_pos ⟨hy, hlast, hm, hm', Nat.le_refl 1, hday⟩]
    exact ofOrdinal_of_valid hvalid
  unfold firstOfMonth
  rw [hymd, hstart]
  exact ⟨_, rfl, rfl⟩

theorem addDays_of_le {n k : ℕ} (hpos : 1 ≤ n) (h : n + k ≤ maxOrdinal) :
    addDays (n * dayLength) k = some ((n + k : ℕ) * dayLength) := by
  have hsum : (n : ℤ) * dayLength + k * dayLength = (n + k : ℕ) * dayLength := by
    push_cast
    ring
  have hrange : inRange ((n + k : ℕ) * dayLength) = true := by
    rw [inRange_iff]
    unfold dayLength maxOrdinal at *
    omega
  unfold addDays checked
  rw [hsum, if_pos hrange]

theorem shift_weekday (d : Date) :
    ∃ start : Date, d.shift (-d.weekday) = some start ∧ start.ordinal = d.ordinal - d.weekday := by
  have hpos := d.valid.1
  have hmax := d.valid.2
  have hweekday : d.weekday = (d.ordinal + 6) % 7 := rfl
  have hvalid : 1 ≤ d.ordinal - d.weekday ∧ d.ordinal - d.weekday ≤ maxOrdinal := by omega
  have hshift : (d.ordinal : ℤ) + -d.weekday = (d.ordinal - d.weekday : ℕ) := by omega
  refine ⟨⟨_, hvalid⟩, ?_, rfl⟩
  unfold Date.shift
  rw [hshift, ofOrdinal_of_valid hvalid]

theorem orOverflow_some {β : Type} (a : β) : orOverflow (some a) = .ok a := rfl

theorem resolveRelative_day {d : Date} (he : d.ordinal + 1 ≤ maxOrdinal) :
    resolveRelativeLocalBoundaries .day d = .ok (d.midnight, (d.ordinal + 1 : ℕ) * dayLength) := by
  have hnext : addDays d.midnight 1 = some ((d.ordinal + 1 : ℕ) * dayLength) := by
    exact_mod_cast addDays_of_le d.valid.1 he
  unfold resolveRelativeLocalBoundaries
  dsimp only
  rw [hnext, orOverflow_some]
  rfl

theorem resolveRelative_week {d : Date} (he : d.ordinal - d.weekday + 7 ≤ maxOrdinal) :
    resolveRelativeLocalBoundaries .week d =
      .ok ((d.ordinal - d.weekday : ℕ) * dayLength, (d.ordinal - d.weekday + 7 : ℕ) * dayLength) := by
  obtain ⟨start, hstart, hordinal⟩ := shift_weekday d
  have hnext : addDays start.midnight 7 = some ((start.ordinal + 7 : ℕ) * dayLength) := by
    rw [← hordinal] at he
    have hweek := addDays_of_le (k := 7) start.valid.1 he
    rwa [Nat.cast_ofNat] at hweek
  unfold resolveRelativeLocalBoundaries
  dsimp only
  rw [hstart, ← hordinal, orOverflow_some, except_ok_bind, hnext, orOverflow_some, except_ok_bind,
    Date.midnight]
  rfl

theorem resolveRelative_month {d : Date} {year month day : ℕ} (hymd : d.ymd = (year, month, day))
    (he : monthStart (12 * (year - 1) + (month - 1) + 1) ≤ maxOrdinal) :
    resolveRelativeLocalBoundaries .month d =
      .ok (monthStart (12 * (year - 1) + (month - 1)) * dayLength,
        monthStart (12 * (year - 1) + (month - 1) + 1) * dayLength) := by
  have hsplits := ymd_splits d
  rw [hymd] at hsplits
  dsimp only at hsplits
  obtain ⟨hy, hm, hm', -, -, -⟩ := hsplits
  have hlt : monthStart (12 * (year - 1) + (month - 1)) < monthStart (12 * (year - 1) + (month - 1) + 1) :=
    monthStart_strictMono (Nat.lt_succ_self _)
  obtain ⟨start, hstart, hmidnight⟩ := firstOfMonth_ok hy hm hm' (hlt.le.trans he)
  obtain ⟨next, hnext, hmidnight'⟩ : ∃ next,
      (if month = 12 then firstOfMonth (year + 1) 1 else firstOfMonth year (month + 1)) = .ok next ∧
        next.midnight = monthStart (12 * (year - 1) + (month - 1) + 1) * dayLength := by
    by_cases hlast : month = 12
    · have hindex : 12 * (year - 1) + (month - 1) + 1 = 12 * (year + 1 - 1) + (1 - 1) := by omega
      rw [if_pos hlast, hindex]
      rw [hindex] at he
      exact firstOfMonth_ok (by omega) (by omega) (by omega) he
    · have hindex : 12 * (year - 1) + (month - 1) + 1 = 12 * (year - 1) + (month + 1 - 1) := by
        omega
      rw [if_neg hlast, hindex]
      rw [hindex] at he
      exact firstOfMonth_ok hy (by omega) (by omega) he
  unfold resolveRelativeLocalBoundaries
  rw [hymd]
  dsimp only
  rw [hstart, except_ok_bind, hnext, except_ok_bind, hmidnight, hmidnight']
  rfl

theorem resolveRelative_year {d : Date} {year month day : ℕ} (hymd : d.ymd = (year, month, day))
    (he : yearStart year ≤ maxOrdinal) :
    resolveRelativeLocalBoundaries .year d =
      .ok (yearStart (year - 1) * dayLength, yearStart year * dayLength) := by
  have hsplits := ymd_splits d
  rw [hymd] at hsplits
  have hy : 1 ≤ year := hsplits.year_pos
  have hle : yearStart (year - 1) ≤ maxOrdinal :=
    (yearStart_strictMono.monotone (Nat.sub_le year 1)).trans he
  have hfirst : yearStart (year - 1) = monthStart (12 * (year - 1) + (1 - 1)) :=
    yearStart_eq_monthStart _
  have hsecond : yearStart year = monthStart (12 * (year + 1 - 1) + (1 - 1)) :=
    yearStart_eq_monthStart _
  rw [hsecond] at he
  rw [hfirst] at hle
  obtain ⟨start, hstart, hmidnight⟩ := firstOfMonth_ok hy (by omega) (by omega) hle
  obtain ⟨next, hnext, hmidnight'⟩ := firstOfMonth_ok (by omega) (by omega) (by omega) he
  unfold resolveRelativeLocalBoundaries
  rw [hymd]
  dsimp only
  rw [hstart, except_ok_bind, hnext, except_ok_bind, hmidnight, hmidnight', hfirst, hsecond]
  rfl

theorem exists_cell (p : RelativePeriod) (d : Date) : ∃ s e : ℕ,
    Cell (· ∈ Set.range (marks p)) s e d.ordinal ∧
      (e ≤ maxOrdinal →
        resolveRelativeLocalBoundaries p d = .ok (s * dayLength, e * dayLength)) := by
  have hpos := d.valid.1
  have hsplits := ymd_splits d
  rcases hymd : d.ymd with ⟨year, month, day⟩
  rw [hymd] at hsplits
  cases p with
  | day =>
      refine ⟨d.ordinal, d.ordinal + 1, ?_, resolveRelative_day⟩
      exact .of_strictMono strictMono_id (Nat.le_refl _) (Nat.lt_succ_self _)
  | week =>
      have hstrict : StrictMono (marks .week) := by
        intro j k hjk
        change 7 * j + 1 < 7 * k + 1
        omega
      have hweekday : d.weekday = (d.ordinal + 6) % 7 := rfl
      have hmonday : d.ordinal - d.weekday = 7 * ((d.ordinal - 1) / 7) + 1 := by omega
      have hnext : d.ordinal - d.weekday + 7 = 7 * ((d.ordinal - 1) / 7 + 1) + 1 := by omega
      refine ⟨d.ordinal - d.weekday, d.ordinal - d.weekday + 7, ?_, resolveRelative_week⟩
      rw [hnext, hmonday]
      refine .of_strictMono hstrict ?_ ?_
      · change 7 * ((d.ordinal - 1) / 7) + 1 ≤ d.ordinal
        omega
      · change d.ordinal < 7 * ((d.ordinal - 1) / 7 + 1) + 1
        omega
  | month => exact ⟨_, _, hsplits.monthCell, resolveRelative_month hymd⟩
  | year => exact ⟨_, _, hsplits.yearCell, resolveRelative_year hymd⟩

theorem resolveRelative_cell {p : RelativePeriod} {d : Date} {s e : ℕ}
    (h : Cell (· ∈ Set.range (marks p)) s e d.ordinal) (he : e ≤ maxOrdinal) :
    resolveRelativeLocalBoundaries p d = .ok (s * dayLength, e * dayLength) := by
  obtain ⟨s', e', hcell, hresolve⟩ := exists_cell p d
  obtain ⟨rfl, rfl⟩ := h.unique hcell
  exact hresolve he

/-! ## Instants -/

/-- Three hours ahead of UTC from 1 January 1960 to 4 January 9999, the days a
period around a time from 1961 to 9998 or the one before it can touch. -/
structure EastAfrica (zone : Zone) : Prop where
  atReading : ThreeHoursAhead zone 715510 3651698
  atInstant : ∀ t, midnightUtc 715510 ≤ t → t ≤ midnightUtc 3651698 →
    zone.atInstant t = 10800000000

/-- From 1961 to 9998, as the clocks there show it. -/
def InScope (now : Timestamp) : Prop := midnightUtc 715876 ≤ now ∧ now < midnightUtc 3651695

variable {zone : Zone} {p : RelativePeriod} {s e : ℕ} {t : ℤ}

theorem midnightUtc_le_iff {n : ℕ} :
    midnightUtc n ≤ t ↔ (n : ℤ) * 86400000000 ≤ t + 10800000000 := by
  change (n : ℤ) * 86400000000 - 10800000000 ≤ t ↔ _
  omega

theorem lt_midnightUtc_iff {n : ℕ} :
    t < midnightUtc n ↔ t + 10800000000 < (n : ℤ) * 86400000000 := by
  change t < (n : ℤ) * 86400000000 - 10800000000 ↔ _
  omega

theorem midnightUtc_le {m n : ℕ} : midnightUtc m ≤ midnightUtc n ↔ m ≤ n := by
  change (m : ℤ) * 86400000000 - 10800000000 ≤ (n : ℤ) * 86400000000 - 10800000000 ↔ m ≤ n
  omega

theorem midnightUtc_lt {m n : ℕ} : midnightUtc m < midnightUtc n ↔ m < n := by
  change (m : ℤ) * 86400000000 - 10800000000 < (n : ℤ) * 86400000000 - 10800000000 ↔ m < n
  omega

theorem midnightUtc_strictMono : StrictMono midnightUtc := fun _ _ h ↦ midnightUtc_lt.mpr h

theorem localToday_ok (hz : EastAfrica zone) (hlow : midnightUtc 715510 ≤ t)
    (hhigh : t < midnightUtc 3651698) :
    ∃ d : Date, localToday zone t = .ok d ∧ midnightUtc d.ordinal ≤ t ∧
      t < midnightUtc (d.ordinal + 1) := by
  have hoffset := hz.atInstant t hlow hhigh.le
  rw [midnightUtc_le_iff] at hlow
  rw [lt_midnightUtc_iff] at hhigh
  obtain ⟨n, hn⟩ : ∃ n : ℕ, (t + 10800000000) / 86400000000 = n :=
    ⟨((t + 10800000000) / 86400000000).toNat, by omega⟩
  have hvalid : 1 ≤ n ∧ n ≤ maxOrdinal := by
    unfold maxOrdinal
    omega
  have hrange : inRange (t + 10800000000) = true := by
    rw [inRange_iff]
    omega
  have hreading : zone.toLocal t = some (t + 10800000000) := by
    unfold Zone.toLocal checked
    rw [hoffset, if_pos hrange]
  have hdate : dateOf (t + 10800000000) = some ⟨n, hvalid⟩ := by
    unfold dateOf
    rw [← ofOrdinal_of_valid hvalid, ← hn]
    rfl
  refine ⟨⟨n, hvalid⟩, ?_, ?_, ?_⟩
  · unfold localToday
    rw [hreading, orOverflow_some, except_ok_bind, hdate, orOverflow_some]
  · apply midnightUtc_le_iff.mpr
    dsimp only
    omega
  · apply lt_midnightUtc_iff.mpr
    dsimp only
    omega

theorem toUtcBoundaries_scope (hz : EastAfrica zone) {m n : ℕ} (hm : 715510 ≤ m) (hmn : m ≤ n)
    (hn : n ≤ 3651698) :
    toUtcBoundaries zone (m * dayLength, n * dayLength) = .ok (midnightUtc m, midnightUtc n) := by
  have hstart := hz.atReading m hm (hmn.trans hn)
  have hstop := hz.atReading n (hm.trans hmn) hn
  refine (toUtcBoundaries_ok hstart hstop).mpr ⟨?_, ?_, rfl⟩
  · unfold maxOrdinal
    omega
  · unfold maxOrdinal
    omega

/-- A time in a cell has that cell's interval. -/
theorem resolve_of_cell (hz : EastAfrica zone) {x : ℕ} (h : Cell (· ∈ Set.range (marks p)) s e x)
    (hs : 715510 ≤ s) (he : e ≤ 3651698) (hlow : midnightUtc s ≤ t) (hhigh : t < midnightUtc e) :
    resolvePeriodBoundaries zone t (.relative p) = .ok (midnightUtc s, midnightUtc e) := by
  obtain ⟨d, hd, hday, hnext⟩ := localToday_ok hz ((midnightUtc_le.mpr hs).trans hlow)
    (hhigh.trans_le (midnightUtc_le.mpr he))
  have hstart : s ≤ d.ordinal := by
    have hlt := midnightUtc_lt.mp (hlow.trans_lt hnext)
    omega
  have hstop : d.ordinal < e := midnightUtc_lt.mp (hday.trans_lt hhigh)
  have hmax : e ≤ maxOrdinal := by
    unfold maxOrdinal
    omega
  unfold resolvePeriodBoundaries
  rw [hd, except_ok_bind]
  dsimp only
  rw [resolveRelative_cell (h.of_mem hstart hstop) hmax, except_ok_bind]
  exact toUtcBoundaries_scope hz hs (hstart.trans hstop.le) he

/-- A time in a cell has the cell before as its previous interval. -/
theorem resolvePrevious_of_cell (hz : EastAfrica zone) {x s' : ℕ}
    (h : Cell (· ∈ Set.range (marks p)) s e x) (h' : Cell (· ∈ Set.range (marks p)) s' s (s - 1))
    (hs' : 715510 ≤ s') (he : e ≤ 3651698) (hlow : midnightUtc s ≤ t) (hhigh : t < midnightUtc e) :
    resolvePreviousPeriodBoundaries zone t (.relative p) = .ok (midnightUtc s', midnightUtc s) := by
  have hs : s' ≤ s - 1 := h'.le
  have hse : s < e := h.le.trans_lt h.lt
  obtain ⟨d, hd, hday, hnext⟩ := localToday_ok hz ((midnightUtc_le.mpr (by omega)).trans hlow)
    (hhigh.trans_le (midnightUtc_le.mpr he))
  have hstart : s ≤ d.ordinal := by
    have hlt := midnightUtc_lt.mp (hlow.trans_lt hnext)
    omega
  have hstop : d.ordinal < e := midnightUtc_lt.mp (hday.trans_lt hhigh)
  have hmax : e ≤ maxOrdinal := by
    unfold maxOrdinal
    omega
  have hvalid : 1 ≤ s ∧ s ≤ maxOrdinal := by omega
  have hvalid' : 1 ≤ s - 1 ∧ s - 1 ≤ maxOrdinal := by omega
  have hfirst : dateOf (s * dayLength) = some ⟨s, hvalid⟩ := by
    have hdiv : (s : ℤ) * dayLength / dayLength = s := by
      unfold dayLength
      omega
    unfold dateOf
    rw [hdiv, ofOrdinal_of_valid hvalid]
  have hlast : Date.shift ⟨s, hvalid⟩ (-1) = some ⟨s - 1, hvalid'⟩ := by
    have hpred : (s : ℤ) + -1 = (s - 1 : ℕ) := by omega
    unfold Date.shift
    dsimp only
    rw [hpred, ofOrdinal_of_valid hvalid']
  unfold resolvePreviousPeriodBoundaries
  dsimp only
  rw [hd, except_ok_bind, resolveRelative_cell (h.of_mem hstart hstop) hmax, except_ok_bind]
  dsimp only
  rw [hfirst, orOverflow_some, except_ok_bind, hlast, orOverflow_some, except_ok_bind,
    resolveRelative_cell h' hvalid.2, except_ok_bind]
  exact toUtcBoundaries_scope hz hs' (by omega) (by omega)

/-! ## Every period -/

theorem scope_marks (p : RelativePeriod) : ∃ m₀ ∈ Set.range (marks p), ∃ m₁ ∈ Set.range (marks p),
    ∃ m₂ ∈ Set.range (marks p), 715510 ≤ m₀ ∧ m₀ < m₁ ∧ m₁ ≤ 715876 ∧ 3651695 ≤ m₂ ∧
      m₂ ≤ 3651698 := by
  have h1960 : yearStart 1959 = 715510 := by decide
  have h1961 : yearStart 1960 = 715876 := by decide
  have h9999 : yearStart 9998 = 3651695 := by decide
  cases p with
  | day => exact ⟨715510, ⟨_, rfl⟩, 715876, ⟨_, rfl⟩, 3651695, ⟨_, rfl⟩, by omega⟩
  | week =>
      refine ⟨715513, ⟨102216, ?_⟩, 715870, ⟨102267, ?_⟩, 3651698, ⟨521671, ?_⟩, by omega⟩
      · change 7 * 102216 + 1 = 715513
        omega
      · change 7 * 102267 + 1 = 715870
        omega
      · change 7 * 521671 + 1 = 3651698
        omega
  | month =>
      rw [yearStart_eq_monthStart] at h1960 h1961 h9999
      exact ⟨715510, ⟨_, h1960⟩, 715876, ⟨_, h1961⟩, 3651695, ⟨_, h9999⟩, by omega⟩
  | year => exact ⟨715510, ⟨_, h1960⟩, 715876, ⟨_, h1961⟩, 3651695, ⟨_, h9999⟩, by omega⟩

/-- The local midnight of a day, as an instant. -/
theorem toLocal_midnight (hz : EastAfrica zone) {n : ℕ} (hn : 715510 ≤ n) (hn' : n ≤ 3651698) :
    zone.toLocal (midnightUtc n) = some (n * dayLength) := by
  have hoffset := hz.atInstant (midnightUtc n) (midnightUtc_le.mpr hn) (midnightUtc_le.mpr hn')
  have hreading : midnightUtc n + 10800000000 = n * dayLength := by
    unfold midnightUtc
    ring
  have hrange : inRange (n * dayLength) = true := by
    rw [inRange_iff]
    unfold dayLength
    omega
  unfold Zone.toLocal checked
  rw [hoffset, hreading, if_pos hrange]

/-- The period around a time, and the one before. -/
structure PeriodAround (zone : Zone) (p : RelativePeriod) (now : Timestamp)
    (before start stop : Date) : Prop where
  contains : midnightUtc start.ordinal ≤ now ∧ now < midnightUtc stop.ordinal
  starts : StartsOn p before ∧ StartsOn p start ∧ StartsOn p stop
  neighbours : ∀ d : Date, before.ordinal < d.ordinal → d.ordinal < stop.ordinal → StartsOn p d →
    d = start
  midnights : zone.toLocal (midnightUtc start.ordinal) = some start.midnight ∧
    zone.toLocal (midnightUtc stop.ordinal) = some stop.midnight
  current : ∀ t, midnightUtc start.ordinal ≤ t → t < midnightUtc stop.ordinal →
    resolvePeriodBoundaries zone t (.relative p) =
      .ok (midnightUtc start.ordinal, midnightUtc stop.ordinal)
  previous : ∀ t, midnightUtc start.ordinal ≤ t → t < midnightUtc stop.ordinal →
    resolvePreviousPeriodBoundaries zone t (.relative p) =
      .ok (midnightUtc before.ordinal, midnightUtc start.ordinal)
  earlier : ∀ t, midnightUtc before.ordinal ≤ t → t < midnightUtc start.ordinal →
    resolvePeriodBoundaries zone t (.relative p) =
      .ok (midnightUtc before.ordinal, midnightUtc start.ordinal)

/-- Every time in scope is in a period after another one. -/
theorem exists_period (hz : EastAfrica zone) (p : RelativePeriod) {now : Timestamp}
    (hnow : InScope now) : ∃ before start stop, PeriodAround zone p now before start stop := by
  obtain ⟨m₀, hm₀, m₁, hm₁, m₂, hm₂, hscope⟩ := scope_marks p
  obtain ⟨d, -, hday, hnext⟩ := localToday_ok hz ((midnightUtc_le.mpr (by omega)).trans hnow.1)
    (hnow.2.trans_le (midnightUtc_le.mpr (by omega)))
  have hfirst : 715876 ≤ d.ordinal := by
    have hlt := midnightUtc_lt.mp (hnow.1.trans_lt hnext)
    omega
  have hlast : d.ordinal < 3651695 := midnightUtc_lt.mp (hday.trans_lt hnow.2)
  obtain ⟨s, e, hcell, -⟩ := exists_cell p d
  have hs : m₁ ≤ s := hcell.mark_le hm₁ (by omega)
  have he : e ≤ m₂ := hcell.le_mark hm₂ (by omega)
  have hsd : s ≤ d.ordinal := hcell.le
  have hde : d.ordinal < e := hcell.lt
  have hmax : 3651698 ≤ maxOrdinal := by decide
  obtain ⟨s', e', hcell', -⟩ := exists_cell p ⟨s - 1, by omega, by omega⟩
  dsimp only at hcell'
  obtain rfl : e' = s := by
    apply hcell.stop_eq hcell'
    rw [Nat.covBy_iff_add_one_eq]
    omega
  have hs' : m₀ ≤ s' := hcell'.mark_le hm₀ (by omega)
  have hlt : s' ≤ e' - 1 := hcell'.le
  have hbefore : 715510 ≤ s' := by omega
  have hstart : 715510 ≤ e' ∧ e' ≤ 3651698 := by omega
  have hstop : 715510 ≤ e ∧ e ≤ 3651698 := by omega
  refine ⟨⟨s', by omega, by omega⟩, ⟨e', by omega, by omega⟩, ⟨e, by omega, by omega⟩, ?_⟩
  constructor
  · exact ⟨(midnightUtc_le.mpr hsd).trans hday, hnext.trans_le (midnightUtc_le.mpr hde)⟩
  · exact ⟨(startsOn_iff p _).mpr hcell'.start, (startsOn_iff p _).mpr hcell.start,
      (startsOn_iff p _).mpr hcell.stop⟩
  · intro day hlow hhigh hday
    have hmark := (startsOn_iff p day).mp hday
    rcases lt_trichotomy day.ordinal e' with hbefore | heq | hafter
    · exact absurd hmark (hcell'.between _ hlow hbefore)
    · obtain ⟨ordinal, hvalid⟩ := day
      dsimp only at heq
      subst heq
      rfl
    · exact absurd hmark (hcell.between _ hafter hhigh)
  · exact ⟨toLocal_midnight hz hstart.1 hstart.2, toLocal_midnight hz hstop.1 hstop.2⟩
  · intro t hlow hhigh
    exact resolve_of_cell hz hcell hstart.1 hstop.2 hlow hhigh
  · intro t hlow hhigh
    exact resolvePrevious_of_cell hz hcell hcell' hbefore hstop.2 hlow hhigh
  · intro t hlow hhigh
    exact resolve_of_cell hz hcell' hbefore hstart.2 hlow hhigh

/-! ## Ranges of dates -/

/-- The length of a range, in microseconds. -/
def Analytics.DateRange.length (range : DateRange) : ℤ :=
  ((range.endDate.ordinal : ℤ) - range.startDate.ordinal + 1) * dayLength

/-- There are as many days before the range, from 2 January of year 1 on, as it has. -/
def Analytics.DateRange.LeavesRoom (range : DateRange) : Prop :=
  range.endDate.ordinal - range.startDate.ordinal + 1 ≤ range.startDate.ordinal - 2

/-- The interval of a range, and the one before, which is as long. -/
structure RangeAround (zone : Zone) (now : Timestamp) (range : DateRange) : Prop where
  midnight : zone.toLocal (midnightUtc range.startDate.ordinal) = some range.startDate.midnight
  current : resolvePeriodBoundaries zone now (.dateRange range) =
    .ok (midnightUtc range.startDate.ordinal, midnightUtc range.startDate.ordinal + range.length)
  previous : resolvePreviousPeriodBoundaries zone now (.dateRange range) =
    .ok (midnightUtc range.startDate.ordinal - range.length, midnightUtc range.startDate.ordinal)

theorem inRange_before (range : DateRange) (hstart : 715876 ≤ range.startDate.ordinal)
    (hend : range.endDate.ordinal < 3651695) :
    inRange (midnightUtc range.startDate.ordinal - range.length) = true ↔ range.LeavesRoom := by
  have hordered := range.ordered
  rw [inRange_iff]
  unfold midnightUtc DateRange.length DateRange.LeavesRoom dayLength
  omega

/-- The interval before a range is asked for a start that `datetime` may not hold. -/
theorem resolveRange_scope (hz : EastAfrica zone) {now : Timestamp} (hnow : InScope now)
    {range : DateRange} (hstart : 715876 ≤ range.startDate.ordinal)
    (hend : range.endDate.ordinal < 3651695) :
    resolvePeriodBoundaries zone now (.dateRange range) =
        .ok (midnightUtc range.startDate.ordinal,
          midnightUtc range.startDate.ordinal + range.length) ∧
      resolvePreviousPeriodBoundaries zone now (.dateRange range) =
        if inRange (midnightUtc range.startDate.ordinal - range.length) then
          .ok (midnightUtc range.startDate.ordinal - range.length,
            midnightUtc range.startDate.ordinal)
        else .error (.other "OverflowError" "date value out of range") := by
  have hordered := range.ordered
  have hthree : ThreeHoursAhead zone range.startDate.ordinal (range.endDate.ordinal + 1) :=
    fun n hn hn' ↦ hz.atReading n (by omega) (by omega)
  have hlength : midnightUtc (range.endDate.ordinal + 1) =
      midnightUtc range.startDate.ordinal + range.length := by
    unfold midnightUtc DateRange.length
    push_cast
    ring
  obtain ⟨today, htoday, -⟩ := localToday_ok hz ((midnightUtc_le.mpr (by omega)).trans hnow.1)
    (hnow.2.trans_le (midnightUtc_le.mpr (by omega)))
  have hcurrent : resolvePeriodBoundaries zone now (.dateRange range) =
      .ok (midnightUtc range.startDate.ordinal,
        midnightUtc range.startDate.ordinal + range.length) := by
    rw [periodBounds_range hthree, hlength]
    refine ⟨⟨today, htoday⟩, ⟨by omega, ?_⟩, rfl⟩
    unfold maxOrdinal
    omega
  refine ⟨hcurrent, ?_⟩
  have hback : midnightUtc range.startDate.ordinal -
      (midnightUtc range.startDate.ordinal + range.length - midnightUtc range.startDate.ordinal) =
      midnightUtc range.startDate.ordinal - range.length := by ring
  unfold resolvePreviousPeriodBoundaries
  dsimp only
  rw [hcurrent, except_ok_bind]
  dsimp only
  rw [hback]
  unfold checked
  cases inRange (midnightUtc range.startDate.ordinal - range.length) <;> rfl

theorem rangeAround_iff (hz : EastAfrica zone) {now : Timestamp} (hnow : InScope now)
    {range : DateRange} (hstart : 715876 ≤ range.startDate.ordinal)
    (hend : range.endDate.ordinal < 3651695) : RangeAround zone now range ↔ range.LeavesRoom := by
  obtain ⟨hcurrent, hprevious⟩ := resolveRange_scope hz hnow hstart hend
  have hroom := inRange_before range hstart hend
  constructor
  · intro h
    rw [← hroom]
    by_contra hout
    rw [if_neg hout, h.previous] at hprevious
    cases hprevious
  · intro h
    rw [if_pos (hroom.mpr h)] at hprevious
    have hordered := range.ordered
    exact ⟨toLocal_midnight hz (by omega) (by omega), hcurrent, hprevious⟩

/-- Periods tile the calendar: every time from 1961 to 9998 is in one day, week,
month and year, which follows on the one before, and a range of dates is as long
as its days and follows on one of the same length exactly if there are that many
days before it. -/
theorem periods_tile (hz : EastAfrica zone) :
    (∀ p now, InScope now → ∃ before start stop, PeriodAround zone p now before start stop) ∧
      ∀ (range : DateRange) (now : Timestamp), InScope now → 715876 ≤ range.startDate.ordinal →
        range.endDate.ordinal < 3651695 → (RangeAround zone now range ↔ range.LeavesRoom) :=
  ⟨fun p _ hnow ↦ exists_period hz p hnow, fun _ _ hnow hs he ↦ rangeAround_iff hz hnow hs he⟩

theorem new_year_inScope : InScope (midnightUtc 738886) :=
  ⟨midnightUtc_le.mpr (by omega), midnightUtc_lt.mpr (by omega)⟩

theorem eastAfrica_sample : EastAfrica Deployment.sample.nairobi :=
  ⟨fun _ _ _ ↦ rfl, fun _ _ _ ↦ rfl⟩

/-- The week of midnight, 1 January 2024. -/
theorem periods_tile_new_year : ∃ before start stop,
    PeriodAround Deployment.sample.nairobi .week (midnightUtc 738886) before start stop :=
  (periods_tile eastAfrica_sample).1 .week _ new_year_inScope

/-- All days from 1961 to 9998. -/
def ages : DateRange := ⟨⟨715876, by decide⟩, ⟨3651694, by decide⟩, by decide⟩

/-- There are not as many days before. -/
theorem no_range_before_ages :
    InScope (midnightUtc 738886) ∧ 715876 ≤ ages.startDate.ordinal ∧
      ages.endDate.ordinal < 3651695 ∧
      resolvePreviousPeriodBoundaries Deployment.sample.nairobi (midnightUtc 738886) (.dateRange ages) =
        .error (.other "OverflowError" "date value out of range") := by
  have hstart : 715876 ≤ ages.startDate.ordinal := by decide
  have hend : ages.endDate.ordinal < 3651695 := by decide
  refine ⟨new_year_inScope, hstart, hend, ?_⟩
  obtain ⟨-, hprevious⟩ := resolveRange_scope eastAfrica_sample new_year_inScope hstart hend
  rw [hprevious, if_neg (by decide)]

end SokoFlow

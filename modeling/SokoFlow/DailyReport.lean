import SokoFlow.Periods

/-!
# The daily report

`report_tasks.py` and `routes/reports.py` take today's date from the clock of
the process, and the summary turns the date into a day in the zone of the shops.
For three hours a night the two days are not the same.
-/

namespace SokoFlow

open DbM Effect Calendar Analytics SalesService Tiling

/-- `date.today()`: the date on the clock of the process. -/
def dateToday (process : Zone) (now : Timestamp) : Except Exc Date := do
  let reading ← orOverflow (process.toLocal now)
  orOverflow (dateOf reading)

/-- `ReportPayload` -/
structure ReportPayload where
  shopId : UUID
  recipient : String
  dateStr : Option Date := none

/-- The date of a report: the given one, else today. -/
def targetDate (process : Zone) (now : Timestamp) : Option Date → Except Exc Date
  | some d => .ok d
  | none => dateToday process now

/-- `report_task`, up to the figures of its document. -/
def reportTask (zone process : Zone) (payload : ReportPayload) : DbM DailySummary := do
  let date ← MonadExcept.ofExcept (targetDate process (← now) payload.dateStr)
  getWorkerDb (getDailySummary zone payload.shopId (.date date))

/-- `GET /reports/daily/{shop_id}` -/
def getDailyReport (zone process : Zone) (shopId : UUID) (date : Option Date) : DbM DailySummary :=
  getDb do
    let date ← MonadExcept.ofExcept (targetDate process (← now) date)
    getDailySummary zone shopId (.date date)

/-- The interval that a report without a date is about. -/
def reportInterval (zone process : Zone) (now : Timestamp) : Except Exc (Timestamp × Timestamp) := do
  let date ← dateToday process now
  localDayBoundsToUtc zone (.date date)

/-- The zone of the containers. -/
def utc : Zone := .constant 0

variable {zone process : Zone} {b b' : Backend} {out : DailySummary}

/-- A report made at this time shows the figures of its interval. -/
def ShowsToday (zone process : Zone) (shopId : UUID) (b : Backend) (out : DailySummary) : Prop :=
  ∃ i, reportInterval zone process (b.env.clock b.tick) = .ok i ∧ out = summaryOf shopId i b.working

theorem summary_of_today {shopId : UUID} {now : Timestamp} {date : Date} {b₁ b₂ : Backend}
    (hdate : targetDate process now none = .ok date) (hw : b₁.working = b.working)
    (h : getDailySummary zone shopId (.date date) b₁ = .ok out b₂) :
    ∃ i, reportInterval zone process now = .ok i ∧ out = summaryOf shopId i b.working := by
  obtain ⟨i, hday, hout⟩ := getDailySummary_shows h
  have htoday : dateToday process now = .ok date := hdate
  unfold reportInterval
  rw [htoday, except_ok_bind]
  exact ⟨i, hday, hw ▸ hout⟩

theorem reportTask_shows {payload : ReportPayload} (hdate : payload.dateStr = none)
    (h : reportTask zone process payload b = .ok out b') :
    ShowsToday zone process payload.shopId b out := by
  obtain ⟨now, b₁, hn, h⟩ := bind_eq_ok.mp h
  cases hn
  obtain ⟨date, b₂, hd, hbody⟩ := bind_eq_ok.mp h
  obtain ⟨htarget, rfl⟩ := ofExcept_eq_ok.mp hd
  obtain ⟨b₃, hsummary, -⟩ := getWorkerDb_eq_ok.mp hbody
  rw [hdate] at htarget
  refine summary_of_today (b := b) htarget ?_ hsummary
  rfl

theorem getDailyReport_shows {shopId : UUID}
    (h : getDailyReport zone process shopId none b = .ok out b') :
    ShowsToday zone process shopId b out := by
  obtain ⟨b₀, hbody, -⟩ := getDb_eq_ok.mp h
  obtain ⟨now, b₁, hn, hrest⟩ := bind_eq_ok.mp hbody
  cases hn
  obtain ⟨date, b₂, hd, hsummary⟩ := bind_eq_ok.mp hrest
  obtain ⟨htarget, rfl⟩ := ofExcept_eq_ok.mp hd
  refine summary_of_today (b := b) htarget ?_ hsummary
  rfl

/-! ## Which day it is -/

variable {t : ℤ}

theorem dateToday_utc {n : ℕ} (hn : 1 ≤ n ∧ n ≤ maxOrdinal) (hlow : n * 86400000000 ≤ t)
    (hhigh : t < (n + 1) * 86400000000) : dateToday utc t = .ok ⟨n, hn⟩ := by
  have hmax : maxOrdinal = 3652059 := rfl
  have hzero : utc.toLocal t = some t := by
    have hrange : inRange (t + 0) = true := by
      rw [inRange_iff]
      omega
    unfold Zone.toLocal checked
    change (if inRange (t + 0) then some (t + 0) else none) = some t
    rw [if_pos hrange, Int.add_zero]
  have hdate : dateOf t = some ⟨n, hn⟩ := by
    have hdiv : t / dayLength = n := by
      unfold dayLength
      omega
    unfold dateOf
    rw [hdiv, ofOrdinal_of_valid hn]
  unfold dateToday
  rw [hzero, orOverflow_some, except_ok_bind, hdate, orOverflow_some]

theorem reportInterval_iff (hz : EastAfrica zone) (ht : InScope t) :
    reportInterval zone utc t = resolvePeriodBoundaries zone t (.relative .day) ↔
      t % dayLength < 75600000000 := by
  have hmax : maxOrdinal = 3652059 := rfl
  have hlength : dayLength = 86400000000 := rfl
  obtain ⟨d, -, hday, hnext⟩ := localToday_ok hz ((midnightUtc_le.mpr (by omega)).trans ht.1)
    (ht.2.trans_le (midnightUtc_le.mpr (by omega)))
  have hfirst : 715876 ≤ d.ordinal := by
    have hlt := midnightUtc_lt.mp (ht.1.trans_lt hnext)
    omega
  have hlast : d.ordinal < 3651695 := midnightUtc_lt.mp (hday.trans_lt ht.2)
  have hcell : Cell (· ∈ Set.range (marks .day)) d.ordinal (d.ordinal + 1) d.ordinal :=
    .of_strictMono strictMono_id (Nat.le_refl _) (Nat.lt_succ_self _)
  rw [resolve_of_cell hz hcell (by omega) (by omega) hday hnext]
  rw [midnightUtc_le_iff] at hday
  rw [lt_midnightUtc_iff] at hnext
  obtain ⟨n, hn⟩ : ∃ n : ℕ, t / 86400000000 = n := ⟨(t / 86400000000).toNat, by omega⟩
  have hscope : 715510 ≤ n ∧ n + 1 ≤ 3651698 := by omega
  have hvalid : 1 ≤ n ∧ n ≤ maxOrdinal := by omega
  have htoday : dateToday utc t = .ok ⟨n, hvalid⟩ := dateToday_utc hvalid (by omega) (by omega)
  have hbounds : localDayBoundsToUtc zone (.date ⟨n, hvalid⟩) =
      .ok (midnightUtc n, midnightUtc (n + 1)) := by
    have hthree : ThreeHoursAhead zone n (n + 1) :=
      fun m hm hm' ↦ hz.atReading m (hscope.1.trans hm) (hm'.trans hscope.2)
    have hinside : 2 ≤ n ∧ n < maxOrdinal := by omega
    exact (localDayBounds_date hthree).mpr ⟨hinside, rfl⟩
  have hsame : midnightUtc n = midnightUtc d.ordinal ↔ n = d.ordinal :=
    midnightUtc_strictMono.injective.eq_iff
  unfold reportInterval
  rw [htoday, except_ok_bind, hbounds, Except.ok.injEq, Prod.mk.injEq, hsame, hlength]
  constructor
  · rintro ⟨rfl, -⟩
    omega
  · intro hearly
    obtain rfl : n = d.ordinal := by omega
    exact ⟨rfl, rfl⟩

/-- A report without a date shows an interval of its own, which on a UTC clock is
the merchant's day until nine in the evening. -/
theorem report_covers_today_iff (hz : EastAfrica zone) :
    (∀ payload b out b', payload.dateStr = none → reportTask zone utc payload b = .ok out b' →
      ShowsToday zone utc payload.shopId b out) ∧
    (∀ shopId b out b', getDailyReport zone utc shopId none b = .ok out b' →
      ShowsToday zone utc shopId b out) ∧
    ∀ t, InScope t → (reportInterval zone utc t = resolvePeriodBoundaries zone t (.relative .day) ↔
      t % dayLength < 75600000000) :=
  ⟨fun _ _ _ _ hdate h ↦ reportTask_shows hdate h, fun _ _ _ _ h ↦ getDailyReport_shows h,
    fun _ ht ↦ reportInterval_iff hz ht⟩

/-- Nine in the morning and half past nine in the evening of 1 January 2024, UTC. -/
def morning : Timestamp := 738886 * dayLength + 32400000000

def night : Timestamp := 738886 * dayLength + 77400000000

theorem report_covers_today_morning :
    reportInterval Deployment.sample.nairobi utc morning =
      resolvePeriodBoundaries Deployment.sample.nairobi morning (.relative .day) := by
  have hmorning : InScope morning :=
    ⟨midnightUtc_le_iff.mpr (by decide), lt_midnightUtc_iff.mpr (by decide)⟩
  exact ((report_covers_today_iff eastAfrica_sample).2.2 morning hmorning).mpr (by decide)

/-- At half past midnight in Nairobi the report is about the day before. -/
theorem report_at_night :
    InScope night ∧
      reportInterval Deployment.sample.nairobi utc night =
        .ok (midnightUtc 738886, midnightUtc 738887) ∧
      resolvePeriodBoundaries Deployment.sample.nairobi night (.relative .day) =
        .ok (midnightUtc 738887, midnightUtc 738888) := by
  have hnight : InScope night :=
    ⟨midnightUtc_le_iff.mpr (by decide), lt_midnightUtc_iff.mpr (by decide)⟩
  refine ⟨hnight, ?_, ?_⟩
  · decide +kernel
  · decide +kernel

end SokoFlow

import Mathlib.Data.Int.ConditionallyCompleteOrder
import SokoFlow.Analytics.Handlers
import SokoFlow.Foundation.Tally

/-!
# The daily summary of `sales_service.py`

A day in the zone of the shops becomes a half-open interval of instants.  The
days of a range are consecutive, so what the sales tool reports for the range
is the sum of the summaries of its days.
-/

namespace SokoFlow

open DbM Effect Calendar Analytics Tally

/-- `date | datetime`, an aware `datetime` being an instant. -/
inductive DayInput
  | date (d : Date)
  | naive (reading : ℤ)
  | aware (t : Timestamp)

namespace SalesService

/-- `DailySummaryResponse` -/
structure DailySummary where
  totalRevenue : ℚ
  transactionCount : ℤ
  topProductsByUnits : List (UUID × String × ℤ)
  topProductsByRevenue : List (UUID × String × ℚ)
  productsWithLowStock : List LowStockProduct

def normalizedDate (zone : Zone) : DayInput → Except Exc Date
  | .date d => .ok d
  | .naive reading => orOverflow (dateOf reading)
  | .aware t => localToday zone t

/-- `_local_day_bounds_to_utc` -/
def localDayBoundsToUtc (zone : Zone) (input : DayInput) : Except Exc (Timestamp × Timestamp) := do
  let date ← normalizedDate zone input
  let stop ← orOverflow (addDays date.midnight 1)
  toUtcBoundaries zone (date.midnight, stop)

def getTotalRevenueAndCount (zone : Zone) (input : DayInput) (shopId : UUID) :
    DbM RevenueSummary := do
  let interval ← MonadExcept.ofExcept (localDayBoundsToUtc zone input)
  SalesRepository.getTotalRevenueAndCount shopId interval

def getDailySummary (zone : Zone) (shopId : UUID) (input : DayInput) : DbM DailySummary := do
  let interval ← MonadExcept.ofExcept (localDayBoundsToUtc zone input)
  let summary ← getTotalRevenueAndCount zone input shopId
  let (units, revenue) ← SalesRepository.getTopMovingProducts shopId interval
  let low ← SalesRepository.getProductsWithLowStock shopId
  return ⟨summary.revenue, summary.transactionCount, units, revenue, low⟩

end SalesService

open SalesService

/-! ## Intervals -/

@[simp] theorem except_ok_bind {α β : Type} (a : α) (f : α → Except Exc β) :
    (Except.ok a >>= f) = f a := rfl

@[simp] theorem except_error_bind {α β : Type} (e : Exc) (f : α → Except Exc β) :
    (Except.error e >>= f) = .error e := rfl

theorem relativeDay (today : Date) : resolveRelativeLocalBoundaries .day today =
    (orOverflow (addDays today.midnight 1)).map fun stop ↦ (today.midnight, stop) := by
  unfold resolveRelativeLocalBoundaries
  cases addDays today.midnight 1 <;> rfl

theorem localDayBounds_aware (zone : Zone) (t : Timestamp) :
    localDayBoundsToUtc zone (.aware t) = resolvePeriodBoundaries zone t (.relative .day) := by
  unfold localDayBoundsToUtc resolvePeriodBoundaries normalizedDate
  apply bind_congr
  intro today
  dsimp only
  rw [relativeDay]
  cases orOverflow (addDays today.midnight 1) <;> rfl

/-- The zone is three hours ahead of UTC at the midnights before these days. -/
def ThreeHoursAhead (zone : Zone) (first last : ℕ) : Prop :=
  ∀ n : ℕ, first ≤ n → n ≤ last → zone.atReading (n * dayLength) = 10800000000

/-- The instant of the midnight before day `n`, three hours ahead of UTC. -/
def midnightUtc (n : ℕ) : Timestamp := n * dayLength - 10800000000

theorem midnightUtc_mono : Monotone midnightUtc := by
  intro m n h
  show (m : ℤ) * 86400000000 - 10800000000 ≤ (n : ℤ) * 86400000000 - 10800000000
  omega

theorem inRange_iff (t : ℤ) :
    inRange t = true ↔ 86400000000 ≤ t ∧ t < 3652060 * 86400000000 := by
  unfold inRange dayLength maxOrdinal
  rw [Bool.and_eq_true, decide_eq_true_eq, decide_eq_true_eq]
  norm_num

theorem toUtc_midnight {zone : Zone} {n : ℕ} (h : zone.atReading (n * dayLength) = 10800000000) :
    zone.toUtc (n * dayLength) =
      if 2 ≤ n ∧ n ≤ maxOrdinal + 1 then some (midnightUtc n) else none := by
  have hrange : inRange (n * dayLength - 10800000000) = true ↔ 2 ≤ n ∧ n ≤ maxOrdinal + 1 := by
    rw [inRange_iff]
    unfold dayLength maxOrdinal
    omega
  unfold Zone.toUtc checked
  rw [h]
  simp only [hrange]
  rfl

theorem toUtcBoundaries_ok {zone : Zone} {m n : ℕ} {i : Timestamp × Timestamp}
    (hm : zone.atReading (m * dayLength) = 10800000000)
    (hn : zone.atReading (n * dayLength) = 10800000000) :
    toUtcBoundaries zone (m * dayLength, n * dayLength) = .ok i ↔
      (2 ≤ m ∧ m ≤ maxOrdinal + 1) ∧ (2 ≤ n ∧ n ≤ maxOrdinal + 1) ∧
        i = (midnightUtc m, midnightUtc n) := by
  unfold toUtcBoundaries
  dsimp only
  rw [toUtc_midnight hm, toUtc_midnight hn]
  by_cases h : 2 ≤ m ∧ m ≤ maxOrdinal + 1
  · by_cases h' : 2 ≤ n ∧ n ≤ maxOrdinal + 1
    · simp [h, h', orOverflow, pure, Except.pure, eq_comm]
    · simp [h, h', orOverflow]
  · simp [h, orOverflow]

theorem addDays_midnight (d : Date) :
    addDays d.midnight 1 =
      if d.ordinal < maxOrdinal then some ((d.ordinal + 1 : ℕ) * dayLength) else none := by
  have hsum : d.midnight + 1 * dayLength = (d.ordinal + 1 : ℕ) * dayLength := by
    unfold Date.midnight
    push_cast
    ring
  have hrange : inRange ((d.ordinal + 1 : ℕ) * dayLength) = true ↔ d.ordinal < maxOrdinal := by
    rw [inRange_iff]
    unfold dayLength maxOrdinal
    omega
  unfold addDays checked
  rw [hsum]
  simp only [hrange]

theorem localDayBounds_date {zone : Zone} {d : Date} {i : Timestamp × Timestamp}
    (h : ThreeHoursAhead zone d.ordinal (d.ordinal + 1)) :
    localDayBoundsToUtc zone (.date d) = .ok i ↔
      (2 ≤ d.ordinal ∧ d.ordinal < maxOrdinal) ∧
        i = (midnightUtc d.ordinal, midnightUtc (d.ordinal + 1)) := by
  have hstart := h d.ordinal (Nat.le_refl _) (Nat.le_succ _)
  have hstop := h (d.ordinal + 1) (Nat.le_succ _) (Nat.le_refl _)
  have hbounds := toUtcBoundaries_ok (i := i) hstart hstop
  unfold localDayBoundsToUtc normalizedDate
  dsimp only
  rw [except_ok_bind, addDays_midnight]
  by_cases hd : d.ordinal < maxOrdinal
  · rw [if_pos hd]
    refine hbounds.trans ⟨fun ⟨hm, _, hi⟩ ↦ ⟨⟨hm.1, hd⟩, hi⟩, fun ⟨hm, hi⟩ ↦ ⟨?_, ?_, hi⟩⟩ <;> omega
  · rw [if_neg hd]
    simp [orOverflow, hd]

theorem shift_next (d : Date) (h : d.ordinal < maxOrdinal) :
    ∃ next, d.shift 1 = some next ∧ next.ordinal = d.ordinal + 1 := by
  have hrange : 1 ≤ (d.ordinal : ℤ) + 1 ∧ (d.ordinal : ℤ) + 1 ≤ maxOrdinal := by omega
  refine ⟨_, dif_pos hrange, ?_⟩
  show ((d.ordinal : ℤ) + 1).toNat = d.ordinal + 1
  omega

theorem shift_last (d : Date) (h : ¬ d.ordinal < maxOrdinal) : d.shift 1 = none := by
  refine dif_neg fun hrange ↦ h ?_
  omega

theorem periodBounds_range {zone : Zone} {now : Timestamp} {range : DateRange}
    {i : Timestamp × Timestamp}
    (h : ThreeHoursAhead zone range.startDate.ordinal (range.endDate.ordinal + 1)) :
    resolvePeriodBoundaries zone now (.dateRange range) = .ok i ↔
      (∃ today, localToday zone now = .ok today) ∧
        (2 ≤ range.startDate.ordinal ∧ range.endDate.ordinal < maxOrdinal) ∧
        i = (midnightUtc range.startDate.ordinal, midnightUtc (range.endDate.ordinal + 1)) := by
  have hlt := range.ordered
  unfold resolvePeriodBoundaries
  cases localToday zone now with
  | error e => simp
  | ok today =>
      rw [except_ok_bind]
      dsimp only
      by_cases he : range.endDate.ordinal < maxOrdinal
      · obtain ⟨next, hnext, hn⟩ := shift_next _ he
        have hstart := h range.startDate.ordinal (Nat.le_refl _) (by omega)
        have hstop := h (range.endDate.ordinal + 1) (by omega) (Nat.le_refl _)
        have hbounds := toUtcBoundaries_ok (i := i) hstart hstop
        rw [← hn] at hbounds
        rw [hnext]
        refine hbounds.trans ⟨fun ⟨hm, _, hi⟩ ↦ ⟨⟨today, rfl⟩, ⟨hm.1, he⟩, hn ▸ hi⟩,
          fun ⟨_, hm, hi⟩ ↦ ⟨?_, ?_, hn ▸ hi⟩⟩ <;> omega
      · rw [shift_last _ he]
        simp [orOverflow, he]

/-! ## What a summary shows -/

section Sums

variable {shopId : UUID} {start stop : Timestamp}

def salesOfShop (shopId : UUID) (sales : List Sale) : List Sale :=
  sales.filter (·.shopId = shopId)

def revenue (shopId : UUID) (start stop : Timestamp) (sales : List Sale) : ℚ :=
  tally Sale.createdAt Sale.total start stop (salesOfShop shopId sales)

def transactions (shopId : UUID) (start stop : Timestamp) (sales : List Sale) : ℤ :=
  tally Sale.createdAt (fun _ ↦ (1 : ℤ)) start stop (salesOfShop shopId sales)

theorem totalRevenueAndCount_eq (db : Database) :
    SalesRepository.totalRevenueAndCount shopId start stop db =
      ⟨revenue shopId start stop db.sales, transactions shopId start stop db.sales⟩ := by
  unfold SalesRepository.totalRevenueAndCount revenue transactions tally salesOfShop
  rw [SalesRepository.salesOf_eq]
  simp

theorem getTotalRevenueAndCount_ok {i : Timestamp × Timestamp} {out : RevenueSummary}
    {b b' : Backend} (h : SalesRepository.getTotalRevenueAndCount shopId i b = .ok out b') :
    out = ⟨revenue shopId i.1 i.2 b.working.sales, transactions shopId i.1 i.2 b.working.sales⟩ ∧
      Backend.Untouched b b' := by
  obtain ⟨hq, hu⟩ := select_ok h
  exact ⟨hq.trans (totalRevenueAndCount_eq _), hu⟩

theorem handleGetSalesSummary_ok {dep : Deployment} {period : ReportingPeriod}
    {out : RevenueSummary} {b b' : Backend}
    (h : handleGetSalesSummary dep shopId period b = .ok out b') :
    ∃ now i, resolvePeriodBoundaries dep.nairobi now period = .ok i ∧
      out = ⟨revenue shopId i.1 i.2 b.working.sales,
        transactions shopId i.1 i.2 b.working.sales⟩ := by
  obtain ⟨i, b₁, hi, h⟩ := bind_eq_ok.mp h
  obtain ⟨now, b₂, hn, hi⟩ := bind_eq_ok.mp hi
  cases hn
  obtain ⟨hperiod, rfl⟩ := ofExcept_eq_ok.mp hi
  obtain ⟨rfl, -⟩ := getTotalRevenueAndCount_ok h
  exact ⟨_, i, hperiod, rfl⟩

/-- The figures of the sales in an interval, and what is low on these rows. -/
def SalesService.summaryOf (shopId : UUID) (i : Timestamp × Timestamp) (db : Database) : DailySummary :=
  let summary := SalesRepository.totalRevenueAndCount shopId i.1 i.2 db
  { totalRevenue := summary.revenue
    transactionCount := summary.transactionCount
    topProductsByUnits := SalesRepository.topMovingProductsByUnits shopId i.1 i.2 db
    topProductsByRevenue := SalesRepository.topMovingProductsByRevenue shopId i.1 i.2 db
    productsWithLowStock := SalesRepository.productsWithLowStock shopId db }

/-- All queries of a summary are about one interval. -/
theorem getDailySummary_shows {zone : Zone} {input : DayInput} {out : DailySummary} {b b' : Backend}
    (h : getDailySummary zone shopId input b = .ok out b') :
    ∃ i, localDayBoundsToUtc zone input = .ok i ∧ out = summaryOf shopId i b.working := by
  obtain ⟨i, b₁, hi, hsummary⟩ := bind_eq_ok.mp h
  obtain ⟨hday, rfl⟩ := ofExcept_eq_ok.mp hi
  obtain ⟨summary, b₂, hs, hrest⟩ := bind_eq_ok.mp hsummary
  obtain ⟨i', b₃, hi', hquery⟩ := bind_eq_ok.mp hs
  obtain ⟨hday', rfl⟩ := ofExcept_eq_ok.mp hi'
  obtain rfl : i' = i := Except.ok.inj (hday'.symm.trans hday)
  obtain ⟨⟨units, revenue⟩, b₄, htop, hlast⟩ := bind_eq_ok.mp hrest
  obtain ⟨u, b₅, hu, hranked⟩ := bind_eq_ok.mp htop
  obtain ⟨v, b₆, hv, hpair⟩ := bind_eq_ok.mp hranked
  cases hpair
  obtain ⟨low, b₇, hlow, hout⟩ := bind_eq_ok.mp hlast
  cases hout
  obtain ⟨rfl, hw⟩ := select_ok hquery
  obtain ⟨rfl, hw₁⟩ := select_ok hu
  obtain ⟨rfl, hw₂⟩ := select_ok hv
  obtain ⟨rfl, -⟩ := select_ok hlow
  refine ⟨i', hday, ?_⟩
  rw [hw₂.working, hw₁.working, hw.working]
  rfl

theorem getDailySummary_ok {zone : Zone} {input : DayInput} {out : DailySummary} {b b' : Backend}
    (h : getDailySummary zone shopId input b = .ok out b') :
    ∃ i, localDayBoundsToUtc zone input = .ok i ∧
      out.totalRevenue = revenue shopId i.1 i.2 b.working.sales ∧
      out.transactionCount = transactions shopId i.1 i.2 b.working.sales := by
  obtain ⟨i, hday, rfl⟩ := getDailySummary_shows h
  have hsales : SalesRepository.totalRevenueAndCount shopId i.1 i.2 b.working =
      ⟨revenue shopId i.1 i.2 b.working.sales, transactions shopId i.1 i.2 b.working.sales⟩ :=
    totalRevenueAndCount_eq _
  exact ⟨i, hday, congrArg (·.revenue) hsales, congrArg (·.transactionCount) hsales⟩

end Sums

/-! ## The days of a range -/

def Analytics.DateRange.days (range : DateRange) : List Date :=
  (List.range' range.startDate.ordinal (range.endDate.ordinal + 1 - range.startDate.ordinal)).filterMap
    fun n : ℕ ↦ Date.ofOrdinal n

theorem ofOrdinal_of_valid {n : ℕ} (h : 1 ≤ n ∧ n ≤ maxOrdinal) : Date.ofOrdinal n = some ⟨n, h⟩ := by
  have hn : 1 ≤ (n : ℤ) ∧ (n : ℤ) ≤ maxOrdinal := by omega
  exact dif_pos hn

theorem mem_days {range : DateRange} {d : Date} : d ∈ range.days ↔
    range.startDate.ordinal ≤ d.ordinal ∧ d.ordinal ≤ range.endDate.ordinal := by
  have hlt := range.ordered
  unfold DateRange.days
  rw [List.mem_filterMap]
  constructor
  · rintro ⟨n, hn, hd⟩
    rw [List.mem_range'_1] at hn
    have hstart := range.startDate.valid
    have hend := range.endDate.valid
    rw [ofOrdinal_of_valid (by omega)] at hd
    cases hd
    dsimp only
    omega
  · intro h
    exact ⟨d.ordinal, List.mem_range'_1.mpr (by omega), ofOrdinal_of_valid d.valid⟩

theorem map_ordinal_filterMap {ns : List ℕ} (h : ∀ n ∈ ns, 1 ≤ n ∧ n ≤ maxOrdinal) :
    (ns.filterMap fun n : ℕ ↦ Date.ofOrdinal n).map Date.ordinal = ns := by
  induction ns with
  | nil => rfl
  | cons n ns ih =>
      have hn := ofOrdinal_of_valid (h n (List.mem_cons_self ..))
      have htail := ih fun m hm ↦ h m (List.mem_cons_of_mem _ hm)
      simp only [List.filterMap_cons, hn, List.map_cons, htail]

theorem sum_days {M : Type} [AddCommMonoid M] (range : DateRange) {g : Date → M} {f : ℕ → M}
    (h : ∀ d ∈ range.days, g d = f d.ordinal) :
    (range.days.map g).sum = ((List.range (range.endDate.ordinal + 1 - range.startDate.ordinal)).map
      fun i ↦ f (range.startDate.ordinal + i)).sum := by
  have hordinals : range.days.map Date.ordinal = List.range' range.startDate.ordinal
      (range.endDate.ordinal + 1 - range.startDate.ordinal) := by
    apply map_ordinal_filterMap
    intro n hn
    have hlt := range.ordered
    have hstart := range.startDate.valid
    have hend := range.endDate.valid
    rw [List.mem_range'_1] at hn
    omega
  calc (range.days.map g).sum = ((range.days.map Date.ordinal).map f).sum := by
        rw [List.map_map, List.map_congr_left h]
        rfl
    _ = _ := by
        rw [hordinals, List.range'_eq_map_range, List.map_map]
        rfl

/-- The days of a range cut its interval. -/
theorem tally_days {M : Type} [AddCommMonoid M] (amount : Sale → M) (sales : List Sale)
    (range : DateRange) {g : Date → M}
    (h : ∀ d ∈ range.days, g d = tally Sale.createdAt amount (midnightUtc d.ordinal)
      (midnightUtc (d.ordinal + 1)) sales) :
    tally Sale.createdAt amount (midnightUtc range.startDate.ordinal)
        (midnightUtc (range.endDate.ordinal + 1)) sales = (range.days.map g).sum := by
  have hlt := range.ordered
  have hmono : Monotone fun i ↦ midnightUtc (range.startDate.ordinal + i) :=
    fun i j hij ↦ midnightUtc_mono (Nat.add_le_add_left hij _)
  have hsteps := tally_steps Sale.createdAt amount hmono
    (range.endDate.ordinal + 1 - range.startDate.ordinal) sales
  have hstop : range.startDate.ordinal + (range.endDate.ordinal + 1 - range.startDate.ordinal) =
      range.endDate.ordinal + 1 := by omega
  rw [Nat.add_zero, hstop] at hsteps
  rw [hsteps, sum_days (f := fun n ↦ tally Sale.createdAt amount (midnightUtc n)
    (midnightUtc (n + 1)) sales) range h]
  rfl

/-! ## Ranges add up from days -/

section Calm

variable {b : Backend} {shopId : UUID}

theorem select_returns {α : Type} (q : Database → α) (hf : b.env.Faultless)
    (ha : b.aborted = false) :
    ∃ b', select q b = .ok (q b.working) b' ∧ b'.env.Faultless ∧ b'.aborted = false := by
  obtain ⟨b', h, hu, ha'⟩ := select_calm q hf ha
  exact ⟨b', h, hu.env ▸ hf, ha'⟩

/-- The boundaries are those of the period at the current time. -/
theorem boundaries_eq_ok {dep : Deployment} {period : ReportingPeriod} {i : Timestamp × Timestamp}
    {b' : Backend} :
    boundaries dep period b = .ok i b' ↔
      resolvePeriodBoundaries dep.nairobi (b.env.clock b.tick) period = .ok i ∧
        b' = { b with tick := b.tick + 1 } := by
  have hnow : (now : DbM Timestamp) b = .ok (b.env.clock b.tick) { b with tick := b.tick + 1 } :=
    ask_apply _ _
  unfold boundaries
  rw [bind_of_ok hnow]
  exact ofExcept_eq_ok

theorem handleGetSalesSummary_returns {dep : Deployment} {period : ReportingPeriod}
    (hf : b.env.Faultless) (ha : b.aborted = false) :
    (∃ out b', handleGetSalesSummary dep shopId period b = .ok out b') ↔
      ∃ i, resolvePeriodBoundaries dep.nairobi (b.env.clock b.tick) period = .ok i := by
  constructor
  · rintro ⟨out, b', h⟩
    obtain ⟨i, b₁, hi, -⟩ := bind_eq_ok.mp h
    exact ⟨i, (boundaries_eq_ok.mp hi).1⟩
  · rintro ⟨i, hi⟩
    have hbounds : boundaries dep period b = .ok i { b with tick := b.tick + 1 } :=
      boundaries_eq_ok.mpr ⟨hi, rfl⟩
    obtain ⟨b', hs, -, -⟩ := select_returns (b := { b with tick := b.tick + 1 })
      (SalesRepository.totalRevenueAndCount shopId i.1 i.2) hf ha
    unfold handleGetSalesSummary
    rw [bind_of_ok hbounds]
    exact ⟨_, b', hs⟩

theorem getDailySummary_returns {zone : Zone} {input : DayInput} (hf : b.env.Faultless)
    (ha : b.aborted = false) :
    (∃ out b', getDailySummary zone shopId input b = .ok out b') ↔
      ∃ i, localDayBoundsToUtc zone input = .ok i := by
  constructor
  · rintro ⟨out, b', h⟩
    obtain ⟨i, hi, -⟩ := getDailySummary_ok h
    exact ⟨i, hi⟩
  · rintro ⟨⟨start, stop⟩, hi⟩
    have hbounds : (MonadExcept.ofExcept (localDayBoundsToUtc zone input) :
        DbM (Timestamp × Timestamp)) b = .ok (start, stop) b := ofExcept_eq_ok.mpr ⟨hi, rfl⟩
    obtain ⟨b₁, h₁, hf₁, ha₁⟩ := select_returns
      (SalesRepository.totalRevenueAndCount shopId start stop) hf ha
    obtain ⟨b₂, h₂, hf₂, ha₂⟩ := select_returns
      (SalesRepository.topMovingProductsByUnits shopId start stop) hf₁ ha₁
    obtain ⟨b₃, h₃, hf₃, ha₃⟩ := select_returns
      (SalesRepository.topMovingProductsByRevenue shopId start stop) hf₂ ha₂
    obtain ⟨b₄, h₄, -, -⟩ := select_returns
      (SalesRepository.productsWithLowStock shopId) hf₃ ha₃
    have hsummary : SalesService.getTotalRevenueAndCount zone input shopId b =
        .ok (SalesRepository.totalRevenueAndCount shopId start stop b.working) b₁ := by
      unfold SalesService.getTotalRevenueAndCount
      rw [bind_of_ok hbounds]
      exact h₁
    have htop : SalesRepository.getTopMovingProducts shopId (start, stop) b₁ =
        .ok (SalesRepository.topMovingProductsByUnits shopId start stop b₁.working,
          SalesRepository.topMovingProductsByRevenue shopId start stop b₂.working) b₃ := by
      unfold SalesRepository.getTopMovingProducts
      dsimp only
      rw [bind_of_ok h₂, bind_of_ok h₃]
      rfl
    unfold getDailySummary
    rw [bind_of_ok hbounds, bind_of_ok hsummary, bind_of_ok htop]
    dsimp only
    unfold SalesRepository.getProductsWithLowStock
    rw [bind_of_ok h₄]
    exact ⟨_, b₄, rfl⟩

end Calm

section Ranges

variable (dep : Deployment) (shopId : UUID) (range : DateRange)

/-- What the sales tool reports for the range, on rows with these sales. -/
def ReportsRange (sales : List Sale) (out : RevenueSummary) : Prop :=
  ∃ b b', b.working.sales = sales ∧
    handleGetSalesSummary dep shopId (.dateRange range) b = .ok out b'

/-- What the daily summary shows for a day, on rows with these sales. -/
def ReportsDay (sales : List Sale) (d : Date) (out : DailySummary) : Prop :=
  ∃ b b', b.working.sales = sales ∧
    getDailySummary dep.nairobi shopId (.date d) b = .ok out b'

variable {dep shopId range}
variable (hz : ThreeHoursAhead dep.nairobi range.startDate.ordinal (range.endDate.ordinal + 1))
include hz

theorem threeHoursAhead_of_mem {d : Date} (hd : d ∈ range.days) :
    ThreeHoursAhead dep.nairobi d.ordinal (d.ordinal + 1) := by
  obtain ⟨hstart, hend⟩ := mem_days.mp hd
  intro n hn hn'
  exact hz n (by omega) (by omega)

theorem reportsRange_ok {sales : List Sale} {out : RevenueSummary}
    (h : ReportsRange dep shopId range sales out) :
    out.revenue = revenue shopId (midnightUtc range.startDate.ordinal)
        (midnightUtc (range.endDate.ordinal + 1)) sales ∧
      out.transactionCount = transactions shopId (midnightUtc range.startDate.ordinal)
        (midnightUtc (range.endDate.ordinal + 1)) sales := by
  obtain ⟨b, b', rfl, h⟩ := h
  obtain ⟨now, i, hi, rfl⟩ := handleGetSalesSummary_ok h
  obtain ⟨-, -, rfl⟩ := (periodBounds_range hz).mp hi
  exact ⟨rfl, rfl⟩

theorem reportsDay_ok {sales : List Sale} {d : Date} (hd : d ∈ range.days) {out : DailySummary}
    (h : ReportsDay dep shopId sales d out) :
    out.totalRevenue = revenue shopId (midnightUtc d.ordinal) (midnightUtc (d.ordinal + 1)) sales ∧
      out.transactionCount =
        transactions shopId (midnightUtc d.ordinal) (midnightUtc (d.ordinal + 1)) sales := by
  obtain ⟨b, b', rfl, h⟩ := h
  obtain ⟨i, hi, hrevenue, hcount⟩ := getDailySummary_ok h
  obtain ⟨-, rfl⟩ := (localDayBounds_date (threeHoursAhead_of_mem hz hd)).mp hi
  exact ⟨hrevenue, hcount⟩

/-- The range can be reported when each of its days can. -/
theorem returns_iff {b : Backend} (hf : b.env.Faultless) (ha : b.aborted = false)
    (hnow : ∃ today, localToday dep.nairobi (b.env.clock b.tick) = .ok today) :
    (∃ out b', handleGetSalesSummary dep shopId (.dateRange range) b = .ok out b') ↔
      ∀ d ∈ range.days, ∃ out b', getDailySummary dep.nairobi shopId (.date d) b = .ok out b' := by
  have hlt := range.ordered
  rw [handleGetSalesSummary_returns hf ha]
  constructor
  · rintro ⟨i, hi⟩ d hd
    obtain ⟨-, ⟨hstart, hend⟩, -⟩ := (periodBounds_range hz).mp hi
    obtain ⟨hge, hle⟩ := mem_days.mp hd
    rw [getDailySummary_returns hf ha]
    exact ⟨_, (localDayBounds_date (threeHoursAhead_of_mem hz hd)).mpr ⟨by omega, rfl⟩⟩
  · intro h
    have hbounds {d : Date} (hd : d ∈ range.days) : 2 ≤ d.ordinal ∧ d.ordinal < maxOrdinal := by
      obtain ⟨i, hi⟩ := (getDailySummary_returns hf ha).mp (h d hd)
      exact ((localDayBounds_date (threeHoursAhead_of_mem hz hd)).mp hi).1
    have hstart : range.startDate ∈ range.days := mem_days.mpr (by omega)
    have hend : range.endDate ∈ range.days := mem_days.mpr (by omega)
    exact ⟨_, (periodBounds_range hz).mpr
      ⟨hnow, ⟨(hbounds hstart).1, (hbounds hend).2⟩, rfl⟩⟩

/-- The revenue and the sales of a range are those of its days, and the day of
an instant is the same to the daily summary and to the tools. -/
theorem ranges_add_up :
    (∀ (sales : List Sale) (out : RevenueSummary) (daily : Date → DailySummary),
        ReportsRange dep shopId range sales out →
        (∀ d ∈ range.days, ReportsDay dep shopId sales d (daily d)) →
        out.revenue = (range.days.map fun d ↦ (daily d).totalRevenue).sum ∧
          out.transactionCount = (range.days.map fun d ↦ (daily d).transactionCount).sum) ∧
      (∀ b, b.env.Faultless → b.aborted = false →
        (∃ today, localToday dep.nairobi (b.env.clock b.tick) = .ok today) →
        ((∃ out b', handleGetSalesSummary dep shopId (.dateRange range) b = .ok out b') ↔
          ∀ d ∈ range.days, ∃ out b',
            getDailySummary dep.nairobi shopId (.date d) b = .ok out b')) ∧
      ∀ t, localDayBoundsToUtc dep.nairobi (.aware t) =
        resolvePeriodBoundaries dep.nairobi t (.relative .day) := by
  refine ⟨fun sales out daily hrange hdays ↦ ?_, fun b hf ha hnow ↦ returns_iff hz hf ha hnow,
    localDayBounds_aware dep.nairobi⟩
  obtain ⟨hrevenue, hcount⟩ := reportsRange_ok hz hrange
  rw [hrevenue, hcount]
  constructor
  · exact tally_days _ _ range fun d hd ↦ (reportsDay_ok hz hd (hdays d hd)).1
  · exact tally_days _ _ range fun d hd ↦ (reportsDay_ok hz hd (hdays d hd)).2

end Ranges

/-- Two days in May 2024. -/
def weekend : DateRange := ⟨⟨739010, by decide⟩, ⟨739011, by decide⟩, by decide⟩

/-- A shop with a sale at the first and at the last instant of the weekend, and
one just after it. -/
def market : Database where
  toRows := { Database.sample.toRows with
    sales := [⟨⟨4⟩, ⟨1⟩, ⟨2⟩, 1, 60, 60, "System", midnightUtc 739010⟩,
      ⟨⟨5⟩, ⟨1⟩, ⟨2⟩, 2, 60, 120, "System", midnightUtc 739012 - 1⟩,
      ⟨⟨6⟩, ⟨1⟩, ⟨2⟩, 1, 60, 60, "System", midnightUtc 739012⟩] }
  valid := by decide +kernel

theorem ranges_add_up_weekend : ∃ (out : RevenueSummary) (daily : Date → DailySummary),
    ReportsRange .sample ⟨1⟩ weekend market.sales out ∧
      (∀ d ∈ weekend.days, ReportsDay .sample ⟨1⟩ market.sales d (daily d)) ∧
      out.revenue = (weekend.days.map fun d ↦ (daily d).totalRevenue).sum ∧
      out.transactionCount = (weekend.days.map fun d ↦ (daily d).transactionCount).sum ∧
      out.revenue = 180 := by
  have hz : ThreeHoursAhead Deployment.sample.nairobi weekend.startDate.ordinal
      (weekend.endDate.ordinal + 1) := fun n _ _ ↦ rfl
  obtain ⟨hsums, hreturns, -⟩ := @ranges_add_up .sample ⟨1⟩ weekend hz
  have hnow : ∃ today, localToday Deployment.sample.nairobi (Env.calm.clock 0) = .ok today :=
    ⟨⟨739236, by decide⟩, by decide +kernel⟩
  obtain ⟨out, b', hrange⟩ : ∃ out b', handleGetSalesSummary .sample ⟨1⟩ (.dateRange weekend)
      (.connect .calm market) = .ok out b' := by
    refine (handleGetSalesSummary_returns Env.calm_faultless rfl).mpr
      ⟨_, (periodBounds_range hz).mpr ⟨hnow, by decide, rfl⟩⟩
  have hdays := (hreturns (.connect .calm market) Env.calm_faultless rfl hnow).mp ⟨out, b', hrange⟩
  have hall (d : Date) : ∃ s, d ∈ weekend.days → ReportsDay .sample ⟨1⟩ market.sales d s := by
    by_cases hd : d ∈ weekend.days
    · obtain ⟨s, b', h⟩ := hdays d hd
      exact ⟨s, fun _ ↦ ⟨_, b', rfl, h⟩⟩
    · exact ⟨⟨0, 0, [], [], []⟩, fun h ↦ absurd h hd⟩
  choose daily hdaily using hall
  have hreported : ReportsRange .sample ⟨1⟩ weekend market.sales out := ⟨_, b', rfl, hrange⟩
  obtain ⟨hrevenue, hcount⟩ := hsums market.sales out daily hreported hdaily
  refine ⟨out, daily, hreported, hdaily, hrevenue, hcount, ?_⟩
  rw [(reportsRange_ok hz hreported).1]
  decide +kernel

end SokoFlow

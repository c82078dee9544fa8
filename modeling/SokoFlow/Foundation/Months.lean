import Mathlib.Tactic.IntervalCases
import SokoFlow.Foundation.Calendar
import SokoFlow.Foundation.Tiling

/-!
# Years and months of a date

The years and the months tile the days: `ymd` finds the cell of a day and the
day's place in it.
-/

namespace Calendar

/-! ## Lengths -/

theorem isLeap_iff (year : ℕ) :
    isLeap year = true ↔ year % 4 = 0 ∧ (year % 100 ≠ 0 ∨ year % 400 = 0) := by
  simp [isLeap]

theorem daysBeforeYear_succ {year : ℕ} (h : 1 ≤ year) :
    daysBeforeYear (year + 1) = daysBeforeYear year + 365 + (if isLeap year then 1 else 0) := by
  obtain ⟨y, rfl⟩ : ∃ y, year = y + 1 := ⟨year - 1, by omega⟩
  have hcount : daysBeforeYear (y + 1) = y * 365 + y / 4 - y / 100 + y / 400 := rfl
  have hnext : daysBeforeYear (y + 1 + 1) =
      (y + 1) * 365 + (y + 1) / 4 - (y + 1) / 100 + (y + 1) / 400 := rfl
  rw [hcount, hnext]
  by_cases hleap : isLeap (y + 1) = true
  · rw [if_pos hleap]
    rw [isLeap_iff] at hleap
    omega
  · rw [if_neg hleap]
    rw [isLeap_iff] at hleap
    omega

theorem daysBeforeMonth_succ (year : ℕ) {month : ℕ} (h : 1 ≤ month) (h' : month < 12) :
    daysBeforeMonth year (month + 1) = daysBeforeMonth year month + daysInMonth year month := by
  unfold daysBeforeMonth daysInMonth
  cases isLeap year <;> interval_cases month <;> rfl

theorem daysBeforeMonth_last (year : ℕ) :
    daysBeforeMonth year 12 + daysInMonth year 12 = 365 + (if isLeap year then 1 else 0) := by
  unfold daysBeforeMonth daysInMonth
  cases isLeap year <;> rfl

theorem daysInMonth_pos (year : ℕ) {month : ℕ} (h : 1 ≤ month) (h' : month ≤ 12) :
    1 ≤ daysInMonth year month := by
  unfold daysInMonth
  cases isLeap year <;> interval_cases month <;> decide

/-! ## The first days -/

/-- The ordinal of the first day of the `k`-th year from year 1. -/
def yearStart (k : ℕ) : ℕ := daysBeforeYear (k + 1) + 1

/-- The ordinal of the first day of the `k`-th month from January of year 1. -/
def monthStart (k : ℕ) : ℕ :=
  daysBeforeYear (k / 12 + 1) + daysBeforeMonth (k / 12 + 1) (k % 12 + 1) + 1

theorem yearStart_eq_monthStart (k : ℕ) : yearStart k = monthStart (12 * k) := by
  have hdiv : 12 * k / 12 = k := by omega
  have hmod : 12 * k % 12 = 0 := by omega
  unfold yearStart monthStart
  rw [hdiv, hmod]
  rfl

theorem monthStart_succ (k : ℕ) :
    monthStart (k + 1) = monthStart k + daysInMonth (k / 12 + 1) (k % 12 + 1) := by
  unfold monthStart
  by_cases hk : k % 12 = 11
  · have hdiv : (k + 1) / 12 = k / 12 + 1 := by omega
    have hmod : (k + 1) % 12 = 0 := by omega
    have hmonth : k % 12 + 1 = 12 := by omega
    have hlast := daysBeforeMonth_last (k / 12 + 1)
    have hyear := daysBeforeYear_succ (Nat.le_add_left 1 (k / 12))
    have hjanuary : daysBeforeMonth (k / 12 + 1 + 1) 1 = 0 := rfl
    rw [hdiv, hmod, hmonth, hyear, hjanuary]
    omega
  · have hdiv : (k + 1) / 12 = k / 12 := by omega
    have hmod : (k + 1) % 12 = k % 12 + 1 := by omega
    rw [hdiv, hmod, daysBeforeMonth_succ _ (by omega) (by omega)]
    omega

theorem monthStart_strictMono : StrictMono monthStart := by
  apply strictMono_nat_of_lt_succ
  intro k
  have hpos : 1 ≤ daysInMonth (k / 12 + 1) (k % 12 + 1) := daysInMonth_pos _ (by omega) (by omega)
  rw [monthStart_succ]
  omega

theorem yearStart_strictMono : StrictMono yearStart := by
  intro j k h
  rw [yearStart_eq_monthStart, yearStart_eq_monthStart]
  exact monthStart_strictMono (by omega)

/-! ## Year, month and day -/

/-- A day with this year, month and day of the month. -/
structure Splits (ordinal year month day : ℕ) : Prop where
  year_pos : 1 ≤ year
  month_pos : 1 ≤ month
  month_le : month ≤ 12
  day_pos : 1 ≤ day
  day_le : day ≤ daysInMonth year month
  sum : ordinal = daysBeforeYear year + daysBeforeMonth year month + day

/-- The guess at the month and its correction, for the day `n` of a year, from 0. -/
def monthAndDay (year n : ℕ) : ℕ × ℕ :=
  let month := (n + 50) / 32
  let preceding := daysBeforeMonth year month
  if n < preceding then (month - 1, n - (preceding - daysInMonth year (month - 1)) + 1)
  else (month, n - preceding + 1)

theorem monthAndDay_congr {year year' : ℕ} (h : isLeap year = isLeap year') (n : ℕ) :
    monthAndDay year n = monthAndDay year' n := by
  unfold monthAndDay daysBeforeMonth daysInMonth
  rw [h]

/-- The guess is right for both kinds of years. -/
theorem monthAndDay_of_kind : ∀ year ∈ [1, 4], ∀ n < 365,
    1 ≤ (monthAndDay year n).1 ∧ (monthAndDay year n).1 ≤ 12 ∧ 1 ≤ (monthAndDay year n).2 ∧
      (monthAndDay year n).2 ≤ daysInMonth year (monthAndDay year n).1 ∧
      n + 1 = daysBeforeMonth year (monthAndDay year n).1 + (monthAndDay year n).2 := by
  decide +kernel

theorem monthAndDay_splits (year n : ℕ) (hy : 1 ≤ year) (hn : n < 365) :
    Splits (daysBeforeYear year + n + 1) year (monthAndDay year n).1 (monthAndDay year n).2 := by
  obtain ⟨kind, hkind, hleap⟩ : ∃ kind ∈ [1, 4], isLeap year = isLeap kind := by
    cases h : isLeap year with
    | false => exact ⟨1, by simp, rfl⟩
    | true => exact ⟨4, by simp, rfl⟩
  have hsame := monthAndDay_congr hleap n
  have hbefore (month : ℕ) : daysBeforeMonth year month = daysBeforeMonth kind month := by
    unfold daysBeforeMonth
    rw [hleap]
  have hin (month : ℕ) : daysInMonth year month = daysInMonth kind month := by
    unfold daysInMonth
    rw [hleap]
  obtain ⟨hm, hm', hd, hd', hsum⟩ := monthAndDay_of_kind kind hkind n hn
  rw [hsame]
  refine ⟨hy, hm, hm', hd, ?_, ?_⟩
  · rw [hin]
    exact hd'
  · rw [hbefore]
    omega

theorem daysBeforeYear_of_cycles (a : ℕ) {b c e : ℕ} (hb : b ≤ 3) (hc : c ≤ 24) (he : e ≤ 3) :
    daysBeforeYear (a * 400 + 1 + b * 100 + c * 4 + e) = a * 146097 + b * 36524 + c * 1461 + e * 365 := by
  have hyear : a * 400 + 1 + b * 100 + c * 4 + e - 1 = a * 400 + b * 100 + c * 4 + e := by omega
  have hfour : (a * 400 + b * 100 + c * 4 + e) / 4 = a * 100 + b * 25 + c := by omega
  have hhundred : (a * 400 + b * 100 + c * 4 + e) / 100 = a * 4 + b := by omega
  have hcycle : (a * 400 + b * 100 + c * 4 + e) / 400 = a := by omega
  unfold daysBeforeYear
  dsimp only
  rw [hyear, hfour, hhundred, hcycle]
  omega

theorem splits_last {year n : ℕ} (hy : 1 ≤ year) (hleap : isLeap year = true)
    (hn : daysBeforeYear (year + 1) = n + 1) : Splits (n + 1) year 12 31 := by
  have hlast := daysBeforeMonth_last year
  have hnext := daysBeforeYear_succ hy
  have hdecember : daysInMonth year 12 = 31 := by
    unfold daysInMonth
    rfl
  rw [if_pos hleap] at hlast hnext
  refine ⟨hy, by omega, by omega, by omega, by omega, ?_⟩
  omega

theorem ymd_splits (d : Date) : Splits d.ordinal d.ymd.1 d.ymd.2.1 d.ymd.2.2 := by
  obtain ⟨ordinal, hvalid, hmax⟩ := d
  obtain ⟨n, rfl⟩ : ∃ n, ordinal = n + 1 := ⟨ordinal - 1, by omega⟩
  unfold Date.ymd
  dsimp only
  rw [Nat.add_sub_cancel]
  generalize ha : n / 146097 = a
  generalize hr : n % 146097 = r
  generalize hb : r / 36524 = b
  generalize hr₂ : r % 36524 = r₂
  generalize hc : r₂ / 1461 = c
  generalize hr₃ : r₂ % 1461 = r₃
  generalize he : r₃ / 365 = e
  generalize hr₄ : r₃ % 365 = r₄
  split
  · rename_i hlast
    refine splits_last (by omega) ?_ ?_
    · rw [isLeap_iff]
      omega
    · by_cases hb' : b = 4
      · have hcycles := daysBeforeYear_of_cycles (a + 1) (b := 0) (c := 0) (e := 0)
          (by omega) (by omega) (by omega)
        have hyear : a * 400 + 1 + b * 100 + c * 4 + e - 1 + 1 = (a + 1) * 400 + 1 + 0 * 100 + 0 * 4 + 0 := by
          omega
        rw [hyear, hcycles]
        omega
      · have hcycles := daysBeforeYear_of_cycles a (b := b) (c := c + 1) (e := 0)
          (by omega) (by omega) (by omega)
        have hyear : a * 400 + 1 + b * 100 + c * 4 + e - 1 + 1 =
            a * 400 + 1 + b * 100 + (c + 1) * 4 + 0 := by omega
        rw [hyear, hcycles]
        omega
  · rename_i hnot
    have hcycles := daysBeforeYear_of_cycles a (b := b) (c := c) (e := e)
      (by omega) (by omega) (by omega)
    have hsplits := monthAndDay_splits (a * 400 + 1 + b * 100 + c * 4 + e) r₄ (by omega) (by omega)
    have hsum : n + 1 = daysBeforeYear (a * 400 + 1 + b * 100 + c * 4 + e) + r₄ + 1 := by omega
    rw [← hsum] at hsplits
    unfold monthAndDay at hsplits
    dsimp only at hsplits
    split
    · rename_i hguess
      rw [if_pos hguess] at hsplits
      exact hsplits
    · rename_i hguess
      rw [if_neg hguess] at hsplits
      exact hsplits

/-! ## Reading a day back -/

theorem year_le (d : Date) : d.ymd.1 ≤ 9999 := by
  have hd := ymd_splits d
  have hsum := hd.sum
  have hday := hd.day_pos
  have hmax : d.ordinal ≤ 3652059 := d.valid.2
  have hyear : daysBeforeYear d.ymd.1 = (d.ymd.1 - 1) * 365 + (d.ymd.1 - 1) / 4 -
    (d.ymd.1 - 1) / 100 + (d.ymd.1 - 1) / 400 := rfl
  omega

theorem daysInMonth_le (year : ℕ) {month : ℕ} (hm : month ≤ 12) : daysInMonth year month ≤ 31 := by
  unfold daysInMonth
  split
  · decide
  · interval_cases month <;> decide

theorem ofYmd_ymd (d : Date) : Date.ofYmd d.ymd.1 d.ymd.2.1 d.ymd.2.2 = some d := by
  have hd := ymd_splits d
  unfold Date.ofYmd
  rw [if_pos ⟨hd.year_pos, year_le d, hd.month_pos, hd.month_le, hd.day_pos, hd.day_le⟩, ← hd.sum]
  unfold Date.ofOrdinal
  rw [dif_pos (by exact_mod_cast d.valid)]
  simp

/-! ## The cells of a day -/

open Tiling

section Cells

variable {ordinal year month day : ℕ}

theorem monthStart_of (hy : 1 ≤ year) (hm : 1 ≤ month) (hm' : month ≤ 12) :
    monthStart (12 * (year - 1) + (month - 1)) = daysBeforeYear year + daysBeforeMonth year month + 1 := by
  have hdiv : (12 * (year - 1) + (month - 1)) / 12 + 1 = year := by omega
  have hmod : (12 * (year - 1) + (month - 1)) % 12 + 1 = month := by omega
  unfold monthStart
  rw [hdiv, hmod]

theorem monthStart_next (hy : 1 ≤ year) (hm : 1 ≤ month) (hm' : month ≤ 12) :
    monthStart (12 * (year - 1) + (month - 1) + 1) =
      daysBeforeYear year + daysBeforeMonth year month + 1 + daysInMonth year month := by
  have hdiv : (12 * (year - 1) + (month - 1)) / 12 + 1 = year := by omega
  have hmod : (12 * (year - 1) + (month - 1)) % 12 + 1 = month := by omega
  rw [monthStart_succ, monthStart_of hy hm hm', hdiv, hmod]

theorem Splits.monthCell (h : Splits ordinal year month day) :
    Cell (· ∈ Set.range monthStart) (monthStart (12 * (year - 1) + (month - 1)))
      (monthStart (12 * (year - 1) + (month - 1) + 1)) ordinal := by
  have hstart := monthStart_of h.year_pos h.month_pos h.month_le
  have hnext := monthStart_next h.year_pos h.month_pos h.month_le
  have hsum := h.sum
  have hpos := h.day_pos
  have hle := h.day_le
  exact .of_strictMono monthStart_strictMono (by omega) (by omega)

theorem Splits.yearCell (h : Splits ordinal year month day) :
    Cell (· ∈ Set.range yearStart) (yearStart (year - 1)) (yearStart year) ordinal := by
  have hcell := h.monthCell
  have hm := h.month_pos
  have hm' := h.month_le
  have hy := h.year_pos
  have hsucc : year - 1 + 1 = year := by omega
  have hstart : yearStart (year - 1) ≤ ordinal := by
    rw [yearStart_eq_monthStart]
    exact (monthStart_strictMono.monotone (by omega)).trans hcell.le
  have hstop : ordinal < yearStart (year - 1 + 1) := by
    rw [yearStart_eq_monthStart]
    exact hcell.lt.trans_le (monthStart_strictMono.monotone (by omega))
  have hyear := Cell.of_strictMono yearStart_strictMono hstart hstop
  rwa [hsucc] at hyear

theorem Splits.day_eq_one_iff (h : Splits ordinal year month day) :
    day = 1 ↔ ordinal ∈ Set.range monthStart := by
  have hstart := monthStart_of h.year_pos h.month_pos h.month_le
  have hsum := h.sum
  constructor
  · rintro rfl
    exact ⟨_, hstart.trans hsum.symm⟩
  · rintro ⟨k, hk⟩
    have hcell := h.monthCell
    have hmark : ¬ monthStart (12 * (year - 1) + (month - 1)) < ordinal := fun hlt ↦
      hcell.between ordinal hlt hcell.lt ⟨k, hk⟩
    have hpos := h.day_pos
    omega

theorem Splits.new_year_iff (h : Splits ordinal year month day) :
    (month = 1 ∧ day = 1) ↔ ordinal ∈ Set.range yearStart := by
  have hm := h.month_pos
  have hy := h.year_pos
  constructor
  · rintro ⟨rfl, rfl⟩
    refine ⟨year - 1, ?_⟩
    rw [yearStart_eq_monthStart]
    exact (monthStart_of hy (Nat.le_refl 1) h.month_le).trans h.sum.symm
  · rintro ⟨k, hk⟩
    have hcell := h.yearCell
    have hmark : ¬ yearStart (year - 1) < ordinal := fun hlt ↦
      hcell.between ordinal hlt hcell.lt ⟨k, hk⟩
    have hstart : yearStart (year - 1) = ordinal := by
      have hle := hcell.le
      omega
    have hfirst : day = 1 := by
      refine h.day_eq_one_iff.mpr ⟨12 * (year - 1), ?_⟩
      rw [← yearStart_eq_monthStart, hstart]
    have hsum := (monthStart_of hy hm h.month_le).trans (hfirst ▸ h.sum).symm
    rw [← hstart, yearStart_eq_monthStart] at hsum
    have hindex := monthStart_strictMono.injective hsum
    exact ⟨by omega, hfirst⟩

end Cells

end Calendar

import Mathlib.Algebra.BigOperators.Group.List.Basic
import Mathlib.Order.Lattice
import Mathlib.Order.Monotone.Basic
import Mathlib.Tactic.Common

/-!
# Sums over half-open intervals

The rows of a table whose key lies in an interval, summed up.  Consecutive
intervals add up, and rows past the end of an interval do not count in it.
-/

namespace Tally

variable {α τ M : Type} [LinearOrder τ] [AddCommMonoid M]
variable (key : α → τ) (amount : α → M)

def tally (start stop : τ) (rows : List α) : M :=
  ((rows.filter fun r ↦ start ≤ key r ∧ key r < stop).map amount).sum

@[simp] theorem tally_nil (start stop : τ) : tally key amount start stop [] = 0 := rfl

theorem tally_cons (start stop : τ) (r : α) (rows : List α) :
    tally key amount start stop (r :: rows) =
      (if start ≤ key r ∧ key r < stop then amount r else 0) +
        tally key amount start stop rows := by
  unfold tally
  by_cases h : start ≤ key r ∧ key r < stop
  · simp [h]
  · rw [List.filter_cons_of_neg (by simpa using h), if_neg h, zero_add]

theorem tally_append (start stop : τ) (rows more : List α) :
    tally key amount start stop (rows ++ more) =
      tally key amount start stop rows + tally key amount start stop more := by
  induction rows with
  | nil => simp
  | cons r rows ih => rw [List.cons_append, tally_cons, tally_cons, ih, add_assoc]

@[simp] theorem tally_self (start : τ) (rows : List α) : tally key amount start start rows = 0 := by
  induction rows with
  | nil => rfl
  | cons r rows ih =>
      have hr : ¬ (start ≤ key r ∧ key r < start) := fun h ↦ absurd h.2 (not_lt.mpr h.1)
      rw [tally_cons, if_neg hr, ih, add_zero]

theorem tally_of_late {stop : τ} (start : τ) {rows : List α} (h : ∀ r ∈ rows, stop ≤ key r) :
    tally key amount start stop rows = 0 := by
  induction rows with
  | nil => rfl
  | cons r rows ih =>
      have hr : ¬ (start ≤ key r ∧ key r < stop) := fun hr ↦
        absurd hr.2 (not_lt.mpr (h r (List.mem_cons_self ..)))
      rw [tally_cons, if_neg hr, ih fun r' hr' ↦ h r' (List.mem_cons_of_mem _ hr'), add_zero]

theorem tally_consecutive {start middle stop : τ} (h : start ≤ middle) (h' : middle ≤ stop)
    (rows : List α) :
    tally key amount start stop rows =
      tally key amount start middle rows + tally key amount middle stop rows := by
  induction rows with
  | nil => simp
  | cons r rows ih =>
      simp only [tally_cons]
      have hr : (if start ≤ key r ∧ key r < stop then amount r else 0) =
          (if start ≤ key r ∧ key r < middle then amount r else 0) +
            (if middle ≤ key r ∧ key r < stop then amount r else 0) := by
        rcases lt_or_ge (key r) middle with hk | hk
        · have hlt : key r < stop := hk.trans_le h'
          simp [hk, hlt, not_le.mpr hk]
        · have hge : start ≤ key r := h.trans hk
          simp [hge, not_lt.mpr hk, hk]
      rw [ih, hr, add_add_add_comm]

/-- An interval cut at `bound 1, …, bound (n - 1)`. -/
theorem tally_steps {bound : ℕ → τ} (h : Monotone bound) (n : ℕ) (rows : List α) :
    tally key amount (bound 0) (bound n) rows =
      ((List.range n).map fun i ↦ tally key amount (bound i) (bound (i + 1)) rows).sum := by
  induction n with
  | zero => simp
  | succ n ih =>
      have hfirst : bound 0 ≤ bound n := h (Nat.zero_le n)
      have hlast : bound n ≤ bound (n + 1) := h (Nat.le_succ n)
      rw [tally_consecutive key amount hfirst hlast, ih, List.range_succ]
      simp

end Tally

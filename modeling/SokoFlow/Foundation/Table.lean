import Mathlib.Algebra.Ring.Int.Defs
import Mathlib.Data.List.Nodup
import Mathlib.Algebra.BigOperators.Group.List.Basic
import Mathlib.Tactic.Common

/-!
# Tables as lists of rows

A table keeps its rows in storage order and looks them up by a column.  When
the column is unique, a lookup finds the row that holds the value and changing
one row leaves every other one alone.
-/

namespace Table

variable {α κ : Type} [DecidableEq κ] {key : α → κ} {k k' : κ} {rows : List α} {r : α}

/-- The first row whose column `key` holds `k`. -/
def lookup (key : α → κ) (k : κ) (rows : List α) : Option α := rows.find? fun r ↦ key r = k

/-- Apply `f` to the rows whose column `key` holds `k`. -/
def change (key : α → κ) (k : κ) (f : α → α) (rows : List α) : List α :=
  rows.map fun r ↦ if key r = k then f r else r

theorem mem_of_lookup (h : lookup key k rows = some r) : r ∈ rows :=
  List.mem_of_find?_eq_some h

theorem key_of_lookup (h : lookup key k rows = some r) : key r = k := by
  simpa using List.find?_some h

theorem lookup_eq_none : lookup key k rows = none ↔ ∀ r ∈ rows, key r ≠ k := by
  simp [lookup]

theorem lookup_of_mem (hn : (rows.map key).Nodup) (h : r ∈ rows) :
    lookup key (key r) rows = some r := by
  induction rows with
  | nil => cases h
  | cons a rows ih =>
      rw [List.map_cons, List.nodup_cons] at hn
      rcases List.mem_cons.mp h with rfl | h
      · simp [lookup]
      · have hne : key a ≠ key r := fun he ↦ hn.1 (he ▸ List.mem_map_of_mem h)
        have := ih hn.2 h
        simpa [lookup, List.find?_cons, hne] using this

theorem lookup_eq_some (hn : (rows.map key).Nodup) :
    lookup key k rows = some r ↔ r ∈ rows ∧ key r = k := by
  refine ⟨fun h ↦ ⟨mem_of_lookup h, key_of_lookup h⟩, ?_⟩
  rintro ⟨h, rfl⟩
  exact lookup_of_mem hn h

theorem filter_of_lookup (hn : (rows.map key).Nodup) (h : lookup key k rows = some r) :
    rows.filter (fun r ↦ key r = k) = [r] := by
  induction rows with
  | nil => cases h
  | cons a rows ih =>
      rw [List.map_cons, List.nodup_cons] at hn
      by_cases ha : key a = k
      · have hr : a = r := by simpa [lookup, List.find?_cons, ha] using h
        have hnone : rows.filter (fun r ↦ key r = k) = [] := by
          apply List.filter_eq_nil_iff.mpr
          intro b hb heq
          exact hn.1 (ha ▸ of_decide_eq_true heq ▸ List.mem_map_of_mem hb)
        rw [List.filter_cons_of_pos (by simpa using ha), hnone, hr]
      · have h' : lookup key k rows = some r := by simpa [lookup, List.find?_cons, ha] using h
        simpa [ha] using ih hn.2 h'

theorem lookup_filter (hn : (rows.map key).Nodup) (P : α → Bool) :
    (lookup key k rows).filter P = lookup key k (rows.filter P) := by
  have hn' : ((rows.filter P).map key).Nodup := hn.sublist (List.filter_sublist.map key)
  ext r
  rw [lookup_eq_some hn', Option.filter_eq_some_iff, lookup_eq_some hn, List.mem_filter]
  tauto

theorem lookup_append_self (h : ∀ r ∈ rows, key r ≠ k) (hr : key r = k) :
    lookup key k (rows ++ [r]) = some r := by
  have : lookup key k rows = none := lookup_eq_none.mpr h
  simp only [lookup] at this ⊢
  simp [List.find?_append, this, hr]

theorem lookup_append_ne (h : key r ≠ k) : lookup key k (rows ++ [r]) = lookup key k rows := by
  simp [lookup, List.find?_append, h]

theorem map_change {β : Type} {f : α → α} {g : α → β}
    (hg : ∀ r ∈ rows, key r = k → g (f r) = g r) :
    (change key k f rows).map g = rows.map g := by
  rw [change, List.map_map]
  apply List.map_congr_left
  intro r hr
  by_cases h : key r = k
  · simp [h, hg r hr h]
  · simp [h]

theorem forall_change {f : α → α} {P : α → Prop} (hP : ∀ r ∈ rows, P r)
    (hf : ∀ r ∈ rows, key r = k → P (f r)) : ∀ r ∈ change key k f rows, P r := by
  intro r' hr'
  obtain ⟨r, hr, rfl⟩ := List.mem_map.mp hr'
  by_cases h : key r = k
  · simpa [h] using hf r hr h
  · simpa [h] using hP r hr

section Change

variable {f : α → α} (hf : ∀ r, key r = k → key (f r) = k)
include hf

theorem lookup_change_self :
    lookup key k (change key k f rows) = (lookup key k rows).map f := by
  induction rows with
  | nil => rfl
  | cons a rows ih =>
      simp only [lookup, change, List.map_cons, List.find?_cons] at ih ⊢
      by_cases h : key a = k
      · simp [h, hf a h]
      · simpa [h] using ih

theorem lookup_change_ne (h : k' ≠ k) :
    lookup key k' (change key k f rows) = lookup key k' rows := by
  induction rows with
  | nil => rfl
  | cons a rows ih =>
      simp only [lookup, change, List.map_cons, List.find?_cons] at ih ⊢
      by_cases ha : key a = k
      · have hne : k ≠ k' := Ne.symm h
        simpa [ha, hf a ha, hne] using ih
      · by_cases ha' : key a = k'
        · subst ha'
          simp [h]
        · simpa [ha, ha'] using ih

end Change

/-- Rows that are filtered out before and after they change are not missed. -/
theorem filter_change {f : α → α} {P : α → Bool}
    (h : ∀ r ∈ rows, key r = k → P r = false ∧ P (f r) = false) :
    (change key k f rows).filter P = rows.filter P := by
  induction rows with
  | nil => rfl
  | cons a rows ih =>
      have hrest := ih fun r hr ↦ h r (List.mem_cons_of_mem _ hr)
      unfold change at hrest ⊢
      rw [List.map_cons, List.filter_cons, List.filter_cons, hrest]
      by_cases hk : key a = k
      · obtain ⟨hbefore, hafter⟩ := h a List.mem_cons_self hk
        rw [if_pos hk, hbefore, hafter, if_neg Bool.false_ne_true]
        rfl
      · rw [if_neg hk]

theorem lookup_overwrite {old : α} (hold : lookup key k rows = some old) (hr : key r = k) :
    lookup key k (change key k (fun _ ↦ r) rows) = some r := by
  rw [lookup_change_self fun _ _ ↦ hr, hold]
  rfl

/-! ## Totals -/

/-- The sum of `amount` over the rows whose column `key` holds `k`. -/
def total (key : α → κ) (k : κ) (amount : α → ℤ) (rows : List α) : ℤ :=
  ((rows.filter fun r ↦ key r = k).map amount).sum

@[simp] theorem total_nil (amount : α → ℤ) : total key k amount [] = 0 := rfl

theorem total_append (amount : α → ℤ) :
    total key k amount (rows ++ [r]) =
      total key k amount rows + if key r = k then amount r else 0 := by
  by_cases h : key r = k <;> simp [total, h]

/-! ## Fresh keys -/

/-- A key not used so far: the candidate, or else one past the largest. -/
def fresh (used : List ℕ) (candidate : ℕ) : ℕ :=
  if candidate ∈ used then used.foldr max 0 + 1 else candidate

theorem le_foldr_max {n : ℕ} {used : List ℕ} (h : n ∈ used) : n ≤ used.foldr max 0 := by
  induction used with
  | nil => cases h
  | cons a used ih =>
      rw [List.foldr_cons]
      rcases List.mem_cons.mp h with rfl | h
      · exact Nat.le_max_left _ _
      · exact Nat.le_trans (ih h) (Nat.le_max_right _ _)

theorem fresh_notMem (used : List ℕ) (candidate : ℕ) : fresh used candidate ∉ used := by
  unfold fresh
  split
  · intro h
    have := le_foldr_max h
    omega
  · assumption

end Table

import Mathlib.Order.Cover
import Mathlib.Order.Monotone.Basic
import Mathlib.Data.Nat.SuccPred

/-!
# Tilings

Marks cut a linear order into half-open cells.  A point lies in at most one of
them, and the cell of the point just before a cell ends where that one starts.
-/

namespace Tiling

variable {α : Type} [LinearOrder α] {B : α → Prop} {s e s' e' x y : α}

/-- The cell between two neighbouring marks, with `x` in it. -/
structure Cell (B : α → Prop) (s e x : α) : Prop where
  start : B s
  stop : B e
  le : s ≤ x
  lt : x < e
  between : ∀ m, s < m → m < e → ¬ B m

namespace Cell

/-- A cell starts at the last mark up to its points. -/
theorem mark_le (h : Cell B s e x) (hy : B y) (hyx : y ≤ x) : y ≤ s := by
  by_contra hlt
  exact h.between y (not_le.mp hlt) (hyx.trans_lt h.lt) hy

/-- A cell stops at the first mark after its points. -/
theorem le_mark (h : Cell B s e x) (hy : B y) (hxy : x < y) : e ≤ y := by
  by_contra hlt
  exact h.between y (h.le.trans_lt hxy) (not_le.mp hlt) hy

/-- A point is in one cell only. -/
theorem unique (h : Cell B s e x) (h' : Cell B s' e' x) : s = s' ∧ e = e' :=
  ⟨le_antisymm (h'.mark_le h.start h.le) (h.mark_le h'.start h'.le),
    le_antisymm (h.le_mark h'.stop h'.lt) (h'.le_mark h.stop h.lt)⟩

/-- Every point of a cell is in it. -/
theorem of_mem (h : Cell B s e x) (hs : s ≤ y) (he : y < e) : Cell B s e y :=
  ⟨h.start, h.stop, hs, he, h.between⟩

/-- The cell before. -/
theorem stop_eq (h : Cell B s e x) (h' : Cell B s' e' y) (hy : y ⋖ s) : e' = s := by
  apply le_antisymm (h'.le_mark h.start hy.lt)
  by_contra hlt
  exact hy.2 h'.lt (not_le.mp hlt)

/-- The cells of marks in a strictly increasing sequence. -/
theorem of_strictMono {f : ℕ → α} (hf : StrictMono f) {k : ℕ} (hs : f k ≤ x) (he : x < f (k + 1)) :
    Cell (· ∈ Set.range f) (f k) (f (k + 1)) x := by
  refine ⟨⟨k, rfl⟩, ⟨k + 1, rfl⟩, hs, he, ?_⟩
  rintro _ hlow hhigh ⟨j, rfl⟩
  have hj : k < j := hf.lt_iff_lt.mp hlow
  have hj' : j < k + 1 := hf.lt_iff_lt.mp hhigh
  omega

theorem congr {C : α → Prop} (hBC : ∀ m, B m ↔ C m) (h : Cell B s e x) : Cell C s e x :=
  ⟨(hBC s).mp h.start, (hBC e).mp h.stop, h.le, h.lt, fun m hs he hC ↦
    h.between m hs he ((hBC m).mpr hC)⟩

end Cell

end Tiling

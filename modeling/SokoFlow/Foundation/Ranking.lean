import Mathlib.Data.List.Perm.Subperm
import Mathlib.Data.List.Sort
import Mathlib.Order.Basic

/-!
# The first few of a list

What a query keeps that sorts its rows and takes the first of them, and when
keeping only the rows of the highest score comes to the same.
-/

namespace Ranking

variable {α β : Type} {r : α → α → Prop} {n : ℕ} {all out sorted : List α}

/-- `out` is the first `n` of the list in the order `r`: as many, each as often as
there, in order, and nothing left out belongs before anything kept. -/
structure FirstOf (r : α → α → Prop) (n : ℕ) (all out : List α) : Prop where
  length : out.length = min n all.length
  subperm : out.Subperm all
  ordered : out.Pairwise r
  rest : ∀ x ∈ all, x ∉ out → ∀ y ∈ out, r y x

/-- Sorting and taking keeps the first. -/
theorem FirstOf.of_sorted (hp : sorted.Perm all) (hs : sorted.Pairwise r) :
    FirstOf r n all (sorted.take n) := by
  have hsplit := hs
  rw [← List.take_append_drop n sorted, List.pairwise_append] at hsplit
  obtain ⟨htake, -, hcross⟩ := hsplit
  refine ⟨?_, ?_, htake, ?_⟩
  · rw [List.length_take, hp.length_eq]
  · exact (List.take_sublist n sorted).subperm.trans hp.subperm
  · intro x hx hout y hy
    have hsorted : x ∈ sorted := hp.mem_iff.mpr hx
    rw [← List.take_append_drop n sorted, List.mem_append] at hsorted
    exact hcross y hy x (hsorted.resolve_left hout)

theorem FirstOf.of_insertionSort {_ : DecidableRel r} [Std.Total r] [IsTrans α r] :
    FirstOf r n all ((all.insertionSort r).take n) :=
  .of_sorted (List.perm_insertionSort r all) (List.pairwise_insertionSort r all)

theorem FirstOf.mem {x : α} (h : FirstOf r n all out) (hx : x ∈ out) : x ∈ all :=
  h.subperm.subset hx

theorem FirstOf.eq_nil (h : FirstOf r n all []) (hn : 0 < n) : all = [] := by
  have hlength := h.length
  rw [List.length_nil] at hlength
  exact List.eq_nil_of_length_eq_zero (by omega)

theorem FirstOf.eq_singleton {x : α} (h : FirstOf r n all [x]) (hn : 1 < n) : all = [x] := by
  have hlength := h.length
  rw [List.length_singleton] at hlength
  obtain ⟨y, rfl⟩ := List.length_eq_one_iff.mp (show all.length = 1 by omega)
  rw [List.mem_singleton.mp (h.mem List.mem_cons_self)]

theorem FirstOf.head [Std.Refl r] {x z : α} (h : FirstOf r n all (x :: out)) (hz : z ∈ all) : r x z := by
  by_cases hout : z ∈ x :: out
  · rcases List.mem_cons.mp hout with rfl | hz
    · exact refl_of r z
    · exact List.rel_of_pairwise_cons h.ordered hz
  · exact h.rest z hz hout x List.mem_cons_self

theorem FirstOf.second [Std.Refl r] {x y z : α} (h : FirstOf r n all (x :: y :: out)) (hz : z ∈ all)
    (hne : z ≠ x) : r y z := by
  by_cases hout : z ∈ x :: y :: out
  · rcases List.mem_cons.mp ((List.mem_cons.mp hout).resolve_left hne) with rfl | hz
    · exact refl_of r z
    · exact List.rel_of_pairwise_cons h.ordered.of_cons hz
  · exact h.rest z hz hout y (by simp)

variable [LinearOrder β] {score : α → β}

/-- By score, and by `r` where the scores are equal. -/
def ThenBy (score : α → β) (r : α → α → Prop) (x y : α) : Prop :=
  score x < score y ∨ (score x = score y ∧ r x y)

instance [Std.Total r] : Std.Total (ThenBy score r) where
  total x y := by
    rcases lt_trichotomy (score x) (score y) with hlt | heq | hlt
    · exact .inl (.inl hlt)
    · rcases total_of r x y with h | h
      · exact .inl (.inr ⟨heq, h⟩)
      · exact .inr (.inr ⟨heq.symm, h⟩)
    · exact .inr (.inl hlt)

instance [IsTrans α r] : IsTrans α (ThenBy score r) where
  trans x y z := by
    rintro (hxy | ⟨hxy, h⟩) (hyz | ⟨hyz, h'⟩)
    · exact .inl (hxy.trans hyz)
    · exact .inl (hyz ▸ hxy)
    · exact .inl (hxy ▸ hyz)
    · exact .inr ⟨hxy.trans hyz, IsTrans.trans _ _ _ h h'⟩

/-- The elements of the highest score. -/
def maxima (score : α → β) (all : List α) : List α :=
  all.filter fun x ↦ all.all fun y ↦ score y ≤ score x

theorem mem_maxima {x : α} : x ∈ maxima score all ↔ x ∈ all ∧ ∀ y ∈ all, score y ≤ score x := by
  unfold maxima
  simp

theorem maxima_length_le : (maxima score all).length ≤ all.length := List.length_filter_le _ _

/-- All are of the highest score if all scores are equal. -/
theorem maxima_length_eq_iff :
    (maxima score all).length = all.length ↔ ∀ x ∈ all, ∀ y ∈ all, score x = score y := by
  unfold maxima
  rw [List.length_filter_eq_length_iff]
  simp only [List.all_eq_true, decide_eq_true_eq]
  constructor
  · intro h x hx y hy
    exact le_antisymm (h y hy x hx) (h x hx y hy)
  · intro h x hx y hy
    exact le_of_eq (h y hy x hx)

/-- There are as many of the highest score as are to be kept. -/
theorem min_maxima_iff :
    min n (maxima score all).length = min n all.length ↔
      n ≤ (maxima score all).length ∨ ∀ x ∈ all, ∀ y ∈ all, score x = score y := by
  rw [← maxima_length_eq_iff]
  have hle : (maxima score all).length ≤ all.length := maxima_length_le
  omega

/-- Keeping the first of the highest score keeps the first of all exactly when
there are enough of them, or no others. -/
theorem firstOf_maxima_iff :
    FirstOf (fun x y ↦ score y ≤ score x) n all ((maxima score all).take n) ↔
      n ≤ (maxima score all).length ∨ ∀ x ∈ all, ∀ y ∈ all, score x = score y := by
  rw [← min_maxima_iff]
  constructor
  · intro h
    rw [← h.length, List.length_take]
  · intro h
    have hmem {x : α} (hx : x ∈ (maxima score all).take n) : x ∈ all ∧ ∀ y ∈ all, score y ≤ score x :=
      mem_maxima.mp (List.mem_of_mem_take hx)
    refine ⟨?_, ?_, ?_, ?_⟩
    · rw [List.length_take, h]
    · exact ((List.take_sublist n _).trans List.filter_sublist).subperm
    · apply List.pairwise_of_forall_mem_list
      intro x hx y hy
      exact (hmem hx).2 y (hmem hy).1
    · intro x hx _ y hy
      exact (hmem hy).2 x hx

end Ranking

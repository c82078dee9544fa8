import Mathlib.Algebra.Ring.Nat
import Mathlib.Data.List.Induction
import Mathlib.Tactic.Common
import Mathlib.Tactic.Ring
import SokoFlow.Foundation.Decimal

/-!
# Digits

The digits of a number in a base, the most significant one first, and what
reads them back from the characters they are written with.
-/

namespace Digits

/-- The number with the given digits. -/
def value (b : ℕ) (ds : List ℕ) : ℕ := ds.foldl (fun n d ↦ b * n + d) 0

variable {b : ℕ}

@[simp] theorem value_nil : value b [] = 0 := rfl

@[simp] theorem value_concat (ds : List ℕ) (d : ℕ) : value b (ds ++ [d]) = b * value b ds + d := by
  simp [value]

@[simp] theorem value_singleton (d : ℕ) : value b [d] = d := by simp [value]

theorem value_append (ds es : List ℕ) :
    value b (ds ++ es) = value b ds * b ^ es.length + value b es := by
  induction es using List.reverseRecOn with
  | nil => simp
  | append_singleton es e ih =>
      rw [← List.append_assoc, value_concat, ih, value_concat, List.length_append,
        List.length_singleton, pow_succ]
      ring

@[simp] theorem value_zeros (k : ℕ) : value b (List.replicate k 0) = 0 := by
  induction k with
  | zero => rfl
  | succ k ih =>
      rw [List.replicate_succ', value_concat, ih, Nat.mul_zero]

theorem value_lt {ds : List ℕ} (h : ∀ d ∈ ds, d < b) : value b ds < b ^ ds.length := by
  induction ds using List.reverseRecOn with
  | nil => simp
  | append_singleton ds d ih =>
      have hd : d < b := h d (by simp)
      have hds : value b ds + 1 ≤ b ^ ds.length := ih fun e he ↦ h e (by simp [he])
      have hmul := Nat.mul_le_mul_left b hds
      rw [value_concat, List.length_append, List.length_singleton, pow_succ']
      rw [Nat.mul_add] at hmul
      omega

/-- `toDigits` writes the digits of its number. -/
theorem exists_digits (hb : 1 < b) (n : ℕ) : ∃ ds : List ℕ,
    Nat.toDigits b n = ds.map Nat.digitChar ∧ (∀ d ∈ ds, d < b) ∧ value b ds = n := by
  induction n using Nat.strongRecOn with
  | ind n ih =>
      by_cases hn : n < b
      · exact ⟨[n], Nat.toDigits_of_lt_base hn, by simpa using hn, value_singleton n⟩
      · obtain ⟨ds, hds, hlt, hval⟩ := ih (n / b) (Nat.div_lt_self (by omega) hb)
        refine ⟨ds ++ [n % b], ?_, ?_, ?_⟩
        · rw [Nat.toDigits_of_base_le hb (by omega), hds]
          simp
        · intro d hd
          rcases List.mem_append.mp hd with hd | hd
          · exact hlt d hd
          · rw [List.mem_singleton.mp hd]
            exact Nat.mod_lt n (by omega)
        · rw [value_concat, hval]
          exact Nat.div_add_mod n b

/-- The digits of a number, filled with zeros to a width. -/
theorem exists_padded (hb : 1 < b) {width n : ℕ} (hw : 0 < width) (hn : n < b ^ width) :
    ∃ ds : List ℕ, List.replicate (width - (Nat.toDigits b n).length) '0' ++ Nat.toDigits b n =
      ds.map Nat.digitChar ∧ ds.length = width ∧ (∀ d ∈ ds, d < b) ∧ value b ds = n := by
  obtain ⟨ds, hds, hlt, hval⟩ := exists_digits hb n
  have hlen : ds.length ≤ width := by
    have h := (Nat.length_toDigits_le_iff hb hw).mpr hn
    simpa [hds] using h
  refine ⟨List.replicate (width - ds.length) 0 ++ ds, ?_, ?_, ?_, ?_⟩
  · rw [hds]
    simp [Nat.digitChar]
  · simp
    omega
  · intro d hd
    rcases List.mem_append.mp hd with hd | hd
    · rw [List.eq_of_mem_replicate hd]
      omega
    · exact hlt d hd
  · rw [value_append, value_zeros, hval]
    simp

theorem mapM_digitChar {read : Char → Option ℕ}
    (hread : ∀ d < b, read (Nat.digitChar d) = some d) {ds : List ℕ} (h : ∀ d ∈ ds, d < b) :
    (ds.map Nat.digitChar).mapM read = some ds := by
  induction ds with
  | nil => simp
  | cons d ds ih =>
      rw [List.map_cons, List.mapM_cons, hread d (h d (by simp)),
        ih fun e he ↦ h e (List.mem_cons_of_mem d he)]
      rfl

theorem mem_of_mapM {α β : Type} {f : α → Option β} {l : List α} {l' : List β}
    (h : l.mapM f = some l') : ∀ y ∈ l', ∃ x ∈ l, f x = some y := by
  induction l generalizing l' with
  | nil =>
      rw [List.mapM_nil] at h
      cases h
      simp
  | cons x l ih =>
      rw [List.mapM_cons] at h
      obtain ⟨y, hy, h⟩ := Option.bind_eq_some_iff.mp h
      obtain ⟨ys, hys, h⟩ := Option.bind_eq_some_iff.mp h
      cases h
      intro z hz
      rcases List.mem_cons.mp hz with rfl | hz
      · exact ⟨x, by simp, hy⟩
      · obtain ⟨w, hw, hfw⟩ := ih hys z hz
        exact ⟨w, List.mem_cons_of_mem x hw, hfw⟩

/-! ## Decimal digits -/

theorem readDigits_digitChar {ds : List ℕ} (hne : ds ≠ []) (h : ∀ d ∈ ds, d < 10) :
    Text.readDigits .ascii (ds.map Nat.digitChar) = some ds := by
  have hread : ∀ d < 10, Unicode.ascii.decimal (Nat.digitChar d) = some d := by decide
  have hsep : ∀ d < 10, Nat.digitChar d ≠ '_' := by decide
  induction ds with
  | nil => exact absurd rfl hne
  | cons d ds ih =>
      have hd := h d List.mem_cons_self
      cases ds with
      | nil => simp [Text.readDigits, hread d hd]
      | cons e ds =>
          have he := hsep e (h e (by simp))
          have ih := ih (by simp) fun x hx ↦ h x (List.mem_cons_of_mem d hx)
          rw [List.map_cons, List.map_cons, Text.readDigits]
          · rw [← List.map_cons, ih, hread d hd]
            rfl
          · exact nofun
          · intro rest heq
            exact he (List.cons.inj heq).1

theorem readNat_padded {width n : ℕ} (hw : 0 < width) (hmax : width ≤ Text.maxStrDigits)
    (hn : n < 10 ^ width) : Text.readNat .ascii (Decimal.padded width n) = some n := by
  obtain ⟨ds, hds, hlen, hlt, hval⟩ := exists_padded (by decide) hw hn
  have hne : ds ≠ [] := by
    rintro rfl
    simp at hlen
    omega
  have hpad : Decimal.padded width n = ds.map Nat.digitChar := hds
  rw [hpad, Text.readNat, readDigits_digitChar hne hlt]
  simp [hlen, hmax]
  exact hval

theorem length_padded {width n : ℕ} (hw : 0 < width) (hn : n < 10 ^ width) :
    (Decimal.padded width n).length = width := by
  obtain ⟨ds, hds, hlen, -⟩ := exists_padded (b := 10) (by decide) hw hn
  have hpad : Decimal.padded width n = ds.map Nat.digitChar := hds
  simp [hpad, hlen]

end Digits

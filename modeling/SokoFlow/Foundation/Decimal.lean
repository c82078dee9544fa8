import Mathlib.Data.Rat.Floor
import Mathlib.Tactic.Common
import SokoFlow.Foundation.Text

/-!
# Decimal numbers

Amounts of money are exact rationals; a fixed number of decimal places is a
way to round and to print them.  `Literal` is what the constructor of
Python's `decimal.Decimal` reads from a text.
-/

namespace Decimal

/-! ## Rounding -/

/-- The nearest integer, ties away from zero. -/
def halfUp (q : ℚ) : ℤ :=
  if 0 ≤ q then ⌊q + mkRat 1 2⌋ else -⌊-q + mkRat 1 2⌋

/-- The nearest integer, ties to the even one. -/
def halfEven (q : ℚ) : ℤ :=
  let n := ⌊q⌋
  if q - n < mkRat 1 2 then n
  else if mkRat 1 2 < q - n then n + 1
  else if n % 2 = 0 then n else n + 1

def ofCents (n : ℤ) : ℚ := mkRat n 100

/-- `numeric(_, 2)` and `ROUND_HALF_UP` at two places. -/
def round (q : ℚ) : ℚ := ofCents (halfUp (q * 100))

theorem halfUp_intCast (n : ℤ) : halfUp n = n := by
  have hf : ∀ m : ℤ, ⌊(m : ℚ) + mkRat 1 2⌋ = m := by
    intro m
    rw [Int.floor_eq_iff, Rat.mkRat_eq_div]
    constructor <;> norm_num
  unfold halfUp
  split
  · exact hf n
  · rw [← Int.cast_neg, hf, neg_neg]

@[simp] theorem round_ofCents (n : ℤ) : round (ofCents n) = ofCents n := by
  have hn : ofCents n * 100 = n := by
    rw [ofCents, Rat.mkRat_eq_div]
    push_cast
    ring
  rw [round, hn, halfUp_intCast]

@[simp] theorem round_round (q : ℚ) : round (round q) = round q := round_ofCents _

theorem round_nonneg {q : ℚ} (hq : 0 ≤ q) : 0 ≤ round q := by
  have hh : 0 ≤ halfUp (q * 100) := by
    rw [halfUp, if_pos (by positivity), Int.floor_nonneg, Rat.mkRat_eq_div]
    positivity
  rw [round, ofCents, Rat.mkRat_eq_div]
  have hc : (0 : ℚ) ≤ (halfUp (q * 100) : ℤ) := Int.cast_nonneg hh
  positivity

theorem round_mul_int {p : ℚ} (hp : round p = p) (n : ℤ) : round (p * n) = p * n := by
  have h : p * n = ofCents (halfUp (p * 100) * n) := by
    conv_lhs => rw [← hp]
    rw [round, ofCents, ofCents, Rat.mkRat_eq_div, Rat.mkRat_eq_div]
    push_cast
    ring
  rw [h, round_ofCents]

theorem halfUp_neg (q : ℚ) : halfUp (-q) = -halfUp q := by
  rcases lt_trichotomy q 0 with h | rfl | h
  · have hn : 0 ≤ -q := by linarith
    rw [halfUp, halfUp, if_pos hn, if_neg (not_le.mpr h), neg_neg]
  · rw [neg_zero, ← Int.cast_zero, halfUp_intCast, neg_zero]
  · have hn : ¬ 0 ≤ -q := by linarith
    rw [halfUp, halfUp, if_neg hn, if_pos h.le, neg_neg]

theorem round_neg (q : ℚ) : round (-q) = -round q := by
  rw [round, round, neg_mul, halfUp_neg, ofCents, ofCents, Rat.mkRat_eq_div, Rat.mkRat_eq_div]
  push_cast
  ring

/-- Half up on a fraction of naturals is a division. -/
theorem halfUp_div (n : ℕ) {d : ℕ} (hd : 0 < d) :
    halfUp ((n : ℚ) / d) = ((2 * n + d) / (2 * d) : ℕ) := by
  have hq : (0 : ℚ) ≤ (n : ℚ) / d := by positivity
  have hsum : (n : ℚ) / d + mkRat 1 2 = ((2 * n + d : ℕ) : ℚ) / ((2 * d : ℕ) : ℚ) := by
    have : (d : ℚ) ≠ 0 := by positivity
    rw [Rat.mkRat_eq_div]
    push_cast
    field_simp
  rw [halfUp, if_pos hq, hsum, Rat.floor_natCast_div_natCast]
  rfl

theorem halfUp_eq_zero_iff {q : ℚ} : halfUp q = 0 ↔ |q| < mkRat 1 2 := by
  unfold halfUp
  split
  · rename_i hq
    rw [abs_of_nonneg hq, Int.floor_eq_iff, Rat.mkRat_eq_div]
    constructor
    · rintro ⟨-, h⟩
      push_cast at h ⊢
      linarith
    · intro h
      push_cast at h ⊢
      constructor <;> linarith
  · rename_i hq
    have hneg := not_le.mp hq
    rw [abs_of_neg hneg, neg_eq_zero, Int.floor_eq_iff, Rat.mkRat_eq_div]
    constructor
    · rintro ⟨-, h⟩
      push_cast at h ⊢
      linarith
    · intro h
      push_cast at h ⊢
      constructor <;> linarith

/-- An amount rounds to nothing when it is less than half a cent. -/
theorem round_eq_zero_iff {q : ℚ} : round q = 0 ↔ |q| < mkRat 1 200 := by
  have hcents : round q = 0 ↔ halfUp (q * 100) = 0 := by
    rw [round, ofCents, Rat.mkRat_eq_div]
    simp
  rw [hcents, halfUp_eq_zero_iff, abs_mul, Rat.mkRat_eq_div, Rat.mkRat_eq_div]
  norm_num
  constructor <;> intro h <;> linarith

/-! ## Printing -/

/-- The decimal digits of a number, filled with zeros to a width. -/
def padded (width n : ℕ) : List Char :=
  let ds := Nat.toDigits 10 n
  List.replicate (width - ds.length) '0' ++ ds

/-- Commas between groups of three digits, the digits given last first. -/
def groupThousands : List Char → List Char
  | a :: b :: c :: d :: rest => a :: b :: c :: ',' :: groupThousands (d :: rest)
  | ds => ds

/-- `f"{q:.{places}f}"`, with `group` applied to the digits before the point. -/
def fixedWith (group : List Char → List Char) (places : ℕ) (q : ℚ) : String :=
  let n := halfEven (q * 10 ^ places)
  let sign := if n < 0 then ['-'] else []
  String.ofList (sign ++ group (Nat.toDigits 10 (n.natAbs / 10 ^ places)) ++
    '.' :: padded places (n.natAbs % 10 ^ places))

def fixed (places : ℕ) (q : ℚ) : String := fixedWith id places q

/-- `f"{q:,.2f}"` -/
def comma2 (q : ℚ) : String :=
  fixedWith (fun ds ↦ (groupThousands ds.reverse).reverse) 2 q

example : comma2 (mkRat 123456789 100) = "1,234,567.89" := by decide +kernel

/-! ## Reading -/

inductive Literal
  | finite (negative : Bool) (coefficient : ℕ) (exponent : ℤ)
  | infinite
  | nan
  | signalling

/-- The digits a run of characters stands for, if all are digits. -/
def allDigits (u : Unicode) (s : List Char) : Option (List ℕ) := s.mapM u.decimal

/-- `digits`, `digits.digits`, `.digits`: the digits and how many follow the point. -/
def readMantissa (u : Unicode) (s : List Char) : Option (List ℕ × ℕ) := do
  let whole ← allDigits u (s.takeWhile (· ≠ '.'))
  match s.dropWhile (· ≠ '.') with
  | [] => if whole = [] then none else some (whole, 0)
  | _ :: after => do
      let fraction ← allDigits u after
      if whole ++ fraction = [] then none else some (whole ++ fraction, fraction.length)

def readExponent (u : Unicode) (s : List Char) : Option ℤ := do
  let (negative, ds) := match s with
    | '-' :: rest => (true, rest)
    | '+' :: rest => (false, rest)
    | rest => (false, rest)
  let ds ← allDigits u ds
  if ds = [] then none
  else some (if negative then -(Text.ofDigits ds : ℤ) else Text.ofDigits ds)

/-- The digits of a coefficient after its leading zeros, zero having one. -/
def significant (ds : List ℕ) : ℕ := max 1 (ds.dropWhile (· = 0)).length

/-- The exponents the 64-bit `decimal` module represents. -/
def inRange (digits : ℕ) (exponent : ℤ) : Bool :=
  decide (exponent + digits - 1 ≤ 999999999999999999) &&
    decide (-1999999999999999997 ≤ exponent)

def isMark (c : Char) : Bool := c == 'e' || c == 'E'

def readFinite (u : Unicode) (negative : Bool) (s : List Char) : Option Literal := do
  let (ds, places) ← readMantissa u (s.takeWhile (!isMark ·))
  let exponent ← match s.dropWhile (!isMark ·) with
    | [] => some 0
    | _ :: e => readExponent u e
  let exponent := exponent - places
  if inRange (significant ds) exponent then some (.finite negative (Text.ofDigits ds) exponent) else none

def readUnsigned (u : Unicode) (negative : Bool) (s : List Char) : Option Literal :=
  let lowered := s.map Char.toLower
  if lowered = "inf".toList ∨ lowered = "infinity".toList then some .infinite
  else if lowered.take 3 = "nan".toList then (allDigits u (s.drop 3)).map fun _ ↦ .nan
  else if lowered.take 4 = "snan".toList then (allDigits u (s.drop 4)).map fun _ ↦ .signalling
  else readFinite u negative s

/-- `Decimal(text)`; `none` is its `InvalidOperation`.  Underscores are
dropped wherever they stand. -/
def read (u : Unicode) (text : String) : Option Literal :=
  match (Text.stripChars text.toList).filter (· ≠ '_') with
  | '-' :: rest => readUnsigned u true rest
  | '+' :: rest => readUnsigned u false rest
  | rest => readUnsigned u false rest

/-- The digits of a number, zero having one. -/
def width (n : ℕ) : ℕ := (Nat.toDigits 10 n).length

/-- The cents of `quantize(Decimal("0.01"), rounding=ROUND_HALF_UP)` of a
finite number; `none` when they need more digits than the context's 28. -/
def quantize (negative : Bool) (coefficient : ℕ) (exponent : ℤ) : Option ℤ :=
  let signed := fun n : ℕ ↦ if negative then -(n : ℤ) else (n : ℤ)
  if coefficient = 0 then some 0
  else if -2 ≤ exponent then
    let shift := (exponent + 2).toNat
    if width coefficient + shift ≤ 28 then some (signed (coefficient * 10 ^ shift)) else none
  else
    let shift := (-(exponent + 2)).toNat
    if width coefficient < shift then some 0
    else
      let n := (2 * coefficient + 10 ^ shift) / (2 * 10 ^ shift)
      if width n ≤ 28 then some (signed n) else none

/-- The number a finite literal stands for. -/
def literalValue (negative : Bool) (coefficient : ℕ) (exponent : ℤ) : ℚ :=
  (if negative then -(coefficient : ℚ) else coefficient) * 10 ^ exponent

theorem width_le_iff {n k : ℕ} (hk : 0 < k) : width n ≤ k ↔ n < 10 ^ k :=
  Nat.length_toDigits_le_iff (by decide) hk

theorem literalValue_zero (negative : Bool) (exponent : ℤ) : literalValue negative 0 exponent = 0 := by
  cases negative <;> simp [literalValue]

theorem round_literalValue (negative : Bool) {coefficient : ℕ} {exponent : ℤ} {n : ℕ}
    (h : halfUp (literalValue false coefficient exponent * 100) = n) :
    round (literalValue negative coefficient exponent) =
      ofCents (if negative then -(n : ℤ) else (n : ℤ)) := by
  have hpos : round (literalValue false coefficient exponent) = ofCents n := by
    rw [round, h]
  cases negative with
  | false => exact hpos
  | true =>
      have hneg : literalValue true coefficient exponent = -literalValue false coefficient exponent := by
        simp [literalValue]
      rw [hneg, round_neg, hpos, ofCents, ofCents, Rat.mkRat_eq_div, Rat.mkRat_eq_div]
      simp [neg_div]

theorem quantize_eq_some {negative : Bool} {coefficient : ℕ} {exponent : ℤ} {cents : ℤ}
    (h : quantize negative coefficient exponent = some cents) :
    ofCents cents = round (literalValue negative coefficient exponent) := by
  rw [quantize] at h
  by_cases hzero : coefficient = 0
  · rw [if_pos hzero, Option.some.injEq] at h
    rw [← h, hzero, literalValue_zero, ← round_ofCents, ofCents, Rat.zero_mkRat]
  rw [if_neg hzero] at h
  symm
  by_cases he : -2 ≤ exponent
  · -- whole cents: nothing is rounded
    rw [if_pos he] at h
    simp only [Option.ite_none_right_eq_some, Option.some.injEq] at h
    obtain ⟨-, rfl⟩ := h
    have hexp : exponent + 2 = ((exponent + 2).toNat : ℤ) := by omega
    have hten : (10 : ℚ) ^ exponent * 100 = 10 ^ (exponent + 2).toNat := by
      rw [← zpow_natCast, ← hexp, zpow_add₀ (by norm_num)]
      norm_num
    apply round_literalValue
    rw [literalValue, if_neg (by simp), mul_assoc, hten]
    exact_mod_cast halfUp_intCast _
  · rw [if_neg he] at h
    generalize hs : (-(exponent + 2)).toNat = shift at h
    have hexp : exponent + 2 = -(shift : ℤ) := by omega
    have hten : (10 : ℚ) ^ exponent * 100 = (10 ^ shift)⁻¹ := by
      rw [← zpow_natCast, ← zpow_neg, ← hexp, zpow_add₀ (by norm_num)]
      norm_num
    have hcents : halfUp (literalValue false coefficient exponent * 100) =
        ((2 * coefficient + 10 ^ shift) / (2 * 10 ^ shift) : ℕ) := by
      rw [literalValue, if_neg (by simp), mul_assoc, hten, ← div_eq_mul_inv]
      exact_mod_cast halfUp_div coefficient (d := 10 ^ shift) (by positivity)
    by_cases hw : width coefficient < shift
    · -- less than a tenth of a cent
      rw [if_pos hw, Option.some.injEq] at h
      have hpos : 0 < width coefficient := Nat.length_toDigits_pos
      have hlt : coefficient < 10 ^ (shift - 1) := (width_le_iff (by omega)).mp (by omega)
      have hpow : 10 ^ shift = 10 * 10 ^ (shift - 1) := by
        rw [← pow_succ']
        congr 1
        omega
      have hdiv : (2 * coefficient + 10 ^ shift) / (2 * 10 ^ shift) = 0 :=
        Nat.div_eq_of_lt (by omega)
      rw [hdiv] at hcents
      rw [round_literalValue negative hcents, ← h]
      simp
    · rw [if_neg hw] at h
      simp only [Option.ite_none_right_eq_some, Option.some.injEq] at h
      obtain ⟨-, rfl⟩ := h
      exact round_literalValue negative hcents

example : read .ascii "1_5.5e1" = some (.finite false 155 0) := by rfl

end Decimal

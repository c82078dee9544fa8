import Mathlib.Data.Int.Log
import SokoFlow.Foundation.Decimal

/-!
# Rounded arithmetic

Numbers of a fixed count of digits: those of Python's `decimal` context, and
its `float`, a sign (which a zero has too) and a magnitude of 53 binary digits.
The range of the exponents is not bounded.
-/

namespace Decimal

/-- The nearest number with `p` digits in base `b`, ties to an even last digit. -/
def nearest (b p : ℕ) (q : ℚ) : ℚ :=
  let unit := (b : ℚ) ^ (Int.log b |q| - (p - 1))
  halfEven (q / unit) * unit

/-- The result of an operation in the default context. -/
def inContext (q : ℚ) : ℚ := nearest 10 28 q

end Decimal

structure Double where
  negative : Bool
  magnitude : ℚ
  deriving DecidableEq

namespace Double

/-- `float(q)`; the quotient of two integers is also rounded once. -/
def ofRat (q : ℚ) : Double := ⟨decide (q < 0), Decimal.nearest 2 53 |q|⟩

def mul (x y : Double) : Double :=
  ⟨x.negative ^^ y.negative, Decimal.nearest 2 53 (x.magnitude * y.magnitude)⟩

/-- `round(x, 2)`: the decimal nearest to the exact value of `x`, as a double. -/
def round (x : Double) : Double :=
  ⟨x.negative, Decimal.nearest 2 53 (Decimal.ofCents (Decimal.halfEven (x.magnitude * 100)))⟩

/-- `x >= 0`, of a negative zero too -/
def nonnegative (x : Double) : Bool := !x.negative || x.magnitude == 0

/-- `f"{x:.{places}f}"` -/
def fixed (places : ℕ) (x : Double) : String :=
  (if x.negative then "-" else "") ++ Decimal.fixed places x.magnitude

-- the double of 2.675 is below it
example : (round (ofRat (mkRat 2675 1000))).fixed 2 = "2.67" := by decide +kernel

end Double

import FixedDecimal.Rounding.Basic

/-! Decimals that belong to no schema: an integer magnitude and the number of its digits that
stand after the point. Rescaling changes that number, exactly when it grows. -/
namespace FixedDecimal

abbrev Precision := UInt32

/-- The number `magnitude / 10 ^ precision`. -/
structure Decimal where
  magnitude : Int
  precision : Precision
deriving DecidableEq

def pow10 (exponent : Nat) : Int := Nat.pow 10 exponent

namespace Decimal

def zero (precision : Precision) : Decimal := ⟨0, precision⟩

def isZero (x : Decimal) : Bool := x.magnitude == 0

def rescaleWith (x : Decimal) (precision : Precision) (mode : Rounding) : Decimal :=
  if precision < x.precision then
    ⟨mode.div x.magnitude (pow10 (x.precision - precision).toNat), precision⟩
  else
    ⟨x.magnitude * pow10 (precision - x.precision).toNat, precision⟩

def rescale (x : Decimal) (precision : Precision) : Decimal := x.rescaleWith precision .towardZero

theorem precision_rescaleWith (x : Decimal) (precision : Precision) (mode : Rounding) :
    (x.rescaleWith precision mode).precision = precision := by
  unfold rescaleWith; split <;> rfl

theorem rescaleWith_self (x : Decimal) (mode : Rounding) : x.rescaleWith x.precision mode = x := by
  simp [rescaleWith, pow10]

end Decimal

end FixedDecimal

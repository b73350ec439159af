import FixedDecimal.Error
import FixedDecimal.Decimal.Basic
import FixedDecimal.Text.Positional

/-! Decimals of ninety-six bits: a mantissa below `2 ^ 96` in magnitude and a scale of at most
twenty-eight digits. A number outside these bounds is refused, never rounded. -/
namespace FixedDecimal

structure Decimal96 where
  mantissa : Int
  scale : Precision
  scale_le : scale ≤ 28
  mantissa_lt : mantissa.natAbs < Nat.pow 2 96

namespace Decimal96

def maxScale : Precision := 28

/-- The scale is judged before the mantissa. -/
def make (mantissa : Int) (scale : Precision) : Except Error Decimal96 :=
  if hs : scale ≤ 28 then
    if hm : mantissa.natAbs < Nat.pow 2 96 then .ok ⟨mantissa, scale, hs, hm⟩
    else if 0 < mantissa then
      .error (.conversion "Number exceeds maximum value that can be represented.")
    else .error (.conversion "Number less than minimum value that can be represented.")
  else
    .error (.conversion s!"Scale exceeds the maximum precision allowed: {scale} > {maxScale}")

def toDecimal (x : Decimal96) : Decimal := ⟨x.mantissa, x.scale⟩

def text (x : Decimal96) : String :=
  String.ofList ((if x.mantissa < 0 then ['-'] else []) ++
    Text.fixedPlaces x.mantissa.natAbs x.scale.toNat)

theorem make_self (x : Decimal96) : make x.mantissa x.scale = .ok x := by
  rw [make, dif_pos x.scale_le, dif_pos x.mantissa_lt]

end Decimal96

end FixedDecimal

import FixedDecimal.Decimal.Basic
import FixedDecimal.Proofs.Rounding.Truncation

/-! The rational that a decimal stands for. Rescaling rounds it once at the new precision, and
cutting off never depends on the digits that were kept before. -/
namespace FixedDecimal

theorem cast_pow10 (exponent : ℕ) : ((pow10 exponent : ℤ) : ℚ) = 10 ^ exponent := by
  simp [pow10]

theorem pow10_ne_zero (exponent : ℕ) : pow10 exponent ≠ 0 := by
  simp [pow10]

theorem toNat_add_toNat_sub {p q : Precision} (h : p ≤ q) :
    p.toNat + (q - p).toNat = q.toNat := by
  have hle := UInt32.le_iff_toNat_le.mp h
  rw [UInt32.toNat_sub_of_le _ _ h]
  omega

attribute [ext] Decimal

namespace Decimal

def value (x : Decimal) : ℚ := x.magnitude / 10 ^ x.precision.toNat

theorem rounds_rescaleWith (x : Decimal) (precision : Precision) (mode : Rounding) :
    mode.Rounds (x.value * 10 ^ precision.toNat) (x.rescaleWith precision mode).magnitude := by
  rw [value, rescaleWith]
  split_ifs with h
  · have hv : (x.magnitude : ℚ) / 10 ^ x.precision.toNat * 10 ^ precision.toNat =
        x.magnitude / (pow10 (x.precision - precision).toNat : ℤ) := by
      rw [cast_pow10, ← toNat_add_toNat_sub (UInt32.le_of_lt h), pow_add]
      field_simp
    rw [hv]
    exact mode.rounds_div _ (pow10_ne_zero _)
  · have hv : (x.magnitude : ℚ) / 10 ^ x.precision.toNat * 10 ^ precision.toNat =
        (x.magnitude * pow10 (precision - x.precision).toNat : ℤ) := by
      rw [Int.cast_mul, cast_pow10, ← toNat_add_toNat_sub (UInt32.not_lt.mp h), pow_add]
      field_simp
    rw [hv]
    exact mode.rounds_intCast _

def cut (x : ℚ) (precision : Precision) : Decimal :=
  ⟨Rounding.truncate (x * 10 ^ precision.toNat), precision⟩

@[simp] theorem precision_cut (x : ℚ) (precision : Precision) :
    (cut x precision).precision = precision := rfl

theorem rescale_eq_cut (x : Decimal) (precision : Precision) :
    x.rescale precision = cut x.value precision := by
  have hm := x.rounds_rescaleWith precision .towardZero
  exact Decimal.ext (Rounding.rounds_towardZero_iff.mp hm) (x.precision_rescaleWith precision _)

theorem cut_value (x : Decimal) : cut x.value x.precision = x := by
  rw [← rescale_eq_cut, rescale, rescaleWith_self]

theorem eq_of_value {x y : Decimal} (hv : x.value = y.value) (hp : x.precision = y.precision) :
    x = y := by
  rw [← cut_value x, ← cut_value y, hv, hp]

theorem rescale_cut (x : ℚ) {p q : Precision} (h : q ≤ p) : (cut x p).rescale q = cut x q := by
  have hp := toNat_add_toNat_sub h
  have hpos : 0 < 10 ^ (p - q).toNat := by positivity
  have hm : Rounding.truncate ((cut x p).value * 10 ^ q.toNat) =
      Rounding.truncate (x * 10 ^ q.toNat) := by
    calc Rounding.truncate ((cut x p).value * 10 ^ q.toNat)
        = Rounding.truncate (Rounding.truncate (x * 10 ^ p.toNat) / (10 ^ (p - q).toNat : ℕ)) := by
          rw [value, cut, ← hp, pow_add]
          push_cast
          field_simp
      _ = Rounding.truncate (x * 10 ^ p.toNat / (10 ^ (p - q).toNat : ℕ)) :=
          Rounding.truncate_truncate_div _ hpos
      _ = Rounding.truncate (x * 10 ^ q.toNat) := by
          rw [← hp, pow_add]
          push_cast
          field_simp
  rw [rescale_eq_cut, cut, hm, cut]

end Decimal

end FixedDecimal

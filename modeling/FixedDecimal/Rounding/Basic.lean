/-! Rounded division of integers. A quotient is rounded by its magnitude alone and takes its sign
last, so negating either side negates the result. -/
namespace FixedDecimal

inductive Rounding where
  | towardZero
  | halfAwayFromZero
  | halfEven
deriving DecidableEq

namespace Rounding

/-- Whether the truncated quotient `q` with remainder `r` by `d` moves one away from zero. -/
def movesAway (mode : Rounding) (q r d : Nat) : Bool :=
  match mode with
  | .towardZero => false
  | .halfAwayFromZero => d ≤ 2 * r
  | .halfEven => d < 2 * r || (d == 2 * r && q % 2 == 1)

def divNat (mode : Rounding) (n d : Nat) : Nat :=
  n / d + (mode.movesAway (n / d) (n % d) d).toNat

def div (mode : Rounding) (n d : Int) : Int :=
  n.sign * d.sign * mode.divNat n.natAbs d.natAbs

theorem divNat_towardZero (n d : Nat) : towardZero.divNat n d = n / d := rfl

theorem divNat_mul_self (mode : Rounding) (q : Nat) {d : Nat} (hd : 0 < d) :
    mode.divNat (q * d) d = q := by
  cases mode <;> simp [divNat, movesAway, hd] <;> omega

theorem div_neg_left (mode : Rounding) (n d : Int) : mode.div (-n) d = -mode.div n d := by
  rw [div, div, Int.sign_neg, Int.natAbs_neg, Int.neg_mul, Int.neg_mul]

theorem div_neg_right (mode : Rounding) (n d : Int) : mode.div n (-d) = -mode.div n d := by
  rw [div, div, Int.sign_neg, Int.natAbs_neg, Int.mul_neg, Int.neg_mul]

end Rounding

end FixedDecimal

import FixedDecimal.Error
import FixedDecimal.Rounding.Basic

/-! Rounded division that refuses a zero divisor. -/
namespace FixedDecimal.Rounding

def quotient (mode : Rounding) (n d : Int) : Except Error Int :=
  if d = 0 then .error .divisionByZero else .ok (mode.div n d)

theorem quotient_zero (mode : Rounding) (n : Int) : mode.quotient n 0 = .error .divisionByZero := rfl

theorem quotient_of_ne_zero (mode : Rounding) (n : Int) {d : Int} (hd : d ≠ 0) :
    mode.quotient n d = .ok (mode.div n d) := if_neg hd

theorem quotient_eq_error_iff {mode : Rounding} {n d : Int} {e : Error} :
    mode.quotient n d = .error e ↔ d = 0 ∧ e = .divisionByZero := by
  by_cases hd : d = 0 <;> simp [quotient, hd, eq_comm]

end FixedDecimal.Rounding

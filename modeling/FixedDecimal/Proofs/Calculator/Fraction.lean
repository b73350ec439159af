import FixedDecimal.Calculator
import FixedDecimal.Proofs.Decimal.Value

/-! Every calculation is one fraction of two decimals; without a denominator the lower one is one.
Both ways to evaluate it start from this fraction and differ only in how they divide. -/
namespace FixedDecimal

theorem toNat_add_of_lt {p q : Precision} (h : p.toNat + q.toNat < 2 ^ 32) :
    (p + q).toNat = p.toNat + q.toNat := by
  rw [UInt32.toNat_add, Nat.mod_eq_of_lt h]

namespace Decimal

def bufferedQuotient (n d : Decimal) : Decimal :=
  ⟨Rounding.towardZero.div (n.magnitude * pow10 (d.precision * 2).toNat) d.magnitude,
    n.precision + d.precision⟩

def quotientAt (n d : Decimal) (precision : Precision) (mode : Rounding) : Decimal :=
  ⟨mode.div (n.magnitude * pow10 (d.precision + precision).toNat)
    (d.magnitude * pow10 n.precision.toNat), precision⟩

theorem rounds_quotientAt (n : Decimal) {d : Decimal} (hd : d.magnitude ≠ 0) {precision : Precision}
    (hfit : d.precision.toNat + precision.toNat < 2 ^ 32) (mode : Rounding) :
    mode.Rounds (n.value / d.value * 10 ^ precision.toNat)
      (n.quotientAt d precision mode).magnitude := by
  have hd' : (d.magnitude : ℚ) ≠ 0 := by exact_mod_cast hd
  have hq : n.value / d.value * 10 ^ precision.toNat =
      ((n.magnitude * pow10 (d.precision + precision).toNat : ℤ) : ℚ) /
        (d.magnitude * pow10 n.precision.toNat : ℤ) := by
    rw [value, value, Int.cast_mul, Int.cast_mul, cast_pow10, cast_pow10, toNat_add_of_lt hfit,
      pow_add]
    field_simp
  rw [hq]
  exact mode.rounds_div _ (mul_ne_zero hd (pow10_ne_zero _))

theorem quotientAt_towardZero (n : Decimal) {d : Decimal} (hd : d.magnitude ≠ 0)
    {precision : Precision} (hfit : d.precision.toNat + precision.toNat < 2 ^ 32) :
    n.quotientAt d precision .towardZero = cut (n.value / d.value) precision := by
  rw [cut, ← Rounding.rounds_towardZero_iff.mp (rounds_quotientAt n hd hfit .towardZero)]
  rfl

theorem bufferedQuotient_eq_cut (n : Decimal) {d : Decimal} (hd : d.magnitude ≠ 0)
    (hdouble : 2 * d.precision.toNat < 2 ^ 32)
    (hsum : n.precision.toNat + d.precision.toNat < 2 ^ 32) :
    n.bufferedQuotient d = cut (n.value / d.value) (n.precision + d.precision) := by
  have hd' : (d.magnitude : ℚ) ≠ 0 := by exact_mod_cast hd
  have hmul : (d.precision * 2).toNat = d.precision.toNat + d.precision.toNat := by
    rw [UInt32.toNat_mul, Nat.mod_eq_of_lt (by simpa [mul_comm] using hdouble)]
    simp [mul_two]
  have hq : n.value / d.value * 10 ^ (n.precision + d.precision).toNat =
      ((n.magnitude * pow10 (d.precision * 2).toNat : ℤ) : ℚ) / d.magnitude := by
    rw [value, value, Int.cast_mul, cast_pow10, toNat_add_of_lt hsum, hmul, pow_add, pow_add]
    field_simp
  rw [cut, hq, Rounding.truncate_quotient _ hd]
  rfl

theorem value_one : (⟨1, 0⟩ : Decimal).value = 1 := by
  simp [value]

theorem bufferedQuotient_one (n : Decimal) : n.bufferedQuotient ⟨1, 0⟩ = n := by
  rw [bufferedQuotient_eq_cut n one_ne_zero (by decide) (by simpa using n.precision.toNat_lt),
    value_one, div_one, UInt32.add_zero, cut_value]

theorem quotientAt_one (n : Decimal) (precision : Precision) (mode : Rounding) :
    n.quotientAt ⟨1, 0⟩ precision mode = n.rescaleWith precision mode := by
  have hfit : (0 : Precision).toNat + precision.toNat < 2 ^ 32 := by
    simpa using precision.toNat_lt
  have hrounds := rounds_quotientAt n (d := ⟨1, 0⟩) one_ne_zero hfit mode
  rw [value_one, div_one] at hrounds
  exact Decimal.ext (hrounds.unique (n.rounds_rescaleWith precision mode))
    (n.precision_rescaleWith precision mode).symm

end Decimal

namespace Calculator

def divisor (c : Calculator) : Except Error Decimal :=
  match c.denominator with
  | none => .ok ⟨1, 0⟩
  | some formula => formula.evaluate

def sides (c : Calculator) : Except Error (Decimal × Decimal) := do
  let n ← c.numerator.evaluate
  let d ← c.divisor
  if d.magnitude = 0 then .error .divisionByZero else .ok (n, d)

theorem sides_eq_ok {c : Calculator} {n d : Decimal} :
    c.sides = .ok (n, d) ↔
      c.numerator.evaluate = .ok n ∧ c.divisor = .ok d ∧ d.magnitude ≠ 0 := by
  simp only [sides, bind_eq_ok]
  constructor
  · intro h
    obtain ⟨n', hn, d', hd, h⟩ := h
    by_cases hz : d'.magnitude = 0
    · rw [if_pos hz] at h
      cases h
    · rw [if_neg hz] at h
      cases h
      exact ⟨hn, hd, hz⟩
  · intro h
    obtain ⟨hn, hd, hz⟩ := h
    exact ⟨n, hn, d, hd, if_neg hz⟩

theorem evaluate_eq (c : Calculator) :
    c.evaluate = c.sides.map fun s => s.1.bufferedQuotient s.2 := by
  cases hn : c.numerator.evaluate with
  | error e => simp only [evaluate, sides, hn, error_bind]; rfl
  | ok n =>
    cases hd : c.denominator with
    | none =>
      simp only [evaluate, sides, divisor, hn, hd, ok_bind]
      exact congrArg Except.ok n.bufferedQuotient_one.symm
    | some formula =>
      cases hf : formula.evaluate with
      | error e => simp only [evaluate, sides, divisor, hn, hd, hf, ok_bind, error_bind]; rfl
      | ok d =>
        simp only [evaluate, sides, divisor, hn, hd, hf, ok_bind]
        by_cases hz : d.magnitude = 0
        · rw [hz, if_pos rfl, Rounding.quotient_zero]; rfl
        · rw [if_neg hz, Rounding.quotient_of_ne_zero _ _ hz]; rfl

theorem calculateAt_eq (c : Calculator) (precision : Precision) (mode : Rounding) :
    c.calculateAt precision mode = c.sides.map fun s => s.1.quotientAt s.2 precision mode := by
  cases hn : c.numerator.evaluate with
  | error e => simp only [calculateAt, sides, hn, error_bind]; rfl
  | ok n =>
    cases hd : c.denominator with
    | none =>
      simp only [calculateAt, sides, divisor, hn, hd, ok_bind]
      exact congrArg Except.ok (n.quotientAt_one precision mode).symm
    | some formula =>
      cases hf : formula.evaluate with
      | error e => simp only [calculateAt, sides, divisor, hn, hd, hf, ok_bind, error_bind]; rfl
      | ok d =>
        have hpow := pow10_ne_zero n.precision.toNat
        simp only [calculateAt, sides, divisor, hn, hd, hf, ok_bind]
        by_cases hz : d.magnitude = 0
        · rw [hz, if_pos rfl, zero_mul, Rounding.quotient_zero]; rfl
        · rw [if_neg hz, Rounding.quotient_of_ne_zero _ _ (mul_ne_zero hz hpow)]; rfl

theorem evaluate_eq_error {c : Calculator} {e : Error} :
    c.evaluate = .error e ↔ c.sides = .error e := by
  rw [evaluate_eq, map_eq_error]

theorem calculateAt_eq_error {c : Calculator} {precision : Precision} {mode : Rounding}
    {e : Error} : c.calculateAt precision mode = .error e ↔ c.sides = .error e := by
  rw [calculateAt_eq, map_eq_error]

end Calculator

end FixedDecimal

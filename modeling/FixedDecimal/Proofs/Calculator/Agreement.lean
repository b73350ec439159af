import FixedDecimal.Proofs.Calculator.Fraction

/-! The digits of a result do not depend on how many were asked for. The quotient with a buffer of
digits and the quotient at a precision cut the same rational. -/
namespace FixedDecimal.Calculator

def PrecisionsFit (c : Calculator) (precision : Precision) : Prop :=
  ∀ n d, c.numerator.evaluate = .ok n → c.divisor = .ok d →
    2 * d.precision.toNat < 2 ^ 32 ∧ n.precision.toNat + d.precision.toNat < 2 ^ 32 ∧
      d.precision.toNat + precision.toNat < 2 ^ 32

theorem evaluations_agree (c : Calculator) {precision : Precision}
    (hfit : c.PrecisionsFit precision) :
    (∀ q mode e, c.evaluate = .error e ↔ c.calculateAt q mode = .error e) ∧
    ∀ x, c.evaluate = .ok x →
      ∃ n d y, c.numerator.evaluate = .ok n ∧ c.divisor = .ok d ∧
        x.precision.toNat = n.precision.toNat + d.precision.toNat ∧
        c.calculateAt precision .towardZero = .ok y ∧
        y.rescale (min precision x.precision) = x.rescale (min precision x.precision) ∧
        (precision ≤ x.precision → x.rescale precision = y) ∧
        ∀ q ≤ precision, c.calculateAt q .towardZero = .ok (y.rescale q) := by
  refine ⟨fun q mode e => by rw [evaluate_eq_error, calculateAt_eq_error], ?_⟩
  intro x hx
  rw [evaluate_eq, map_eq_ok] at hx
  obtain ⟨⟨n, d⟩, hsides, rfl⟩ := hx
  obtain ⟨hn, hd, hz⟩ := sides_eq_ok.mp hsides
  obtain ⟨hdouble, hsum, htarget⟩ := hfit n d hn hd
  -- both ways cut `n.value / d.value`, so only the precisions are left to compare
  have hbuffered := n.bufferedQuotient_eq_cut hz hdouble hsum
  have hat : ∀ q ≤ precision,
      c.calculateAt q .towardZero = .ok (.cut (n.value / d.value) q) := by
    intro q hq
    have hle := UInt32.le_iff_toNat_le.mp hq
    rw [calculateAt_eq, hsides, ← n.quotientAt_towardZero hz (by omega)]
    rfl
  simp only [hbuffered, Decimal.precision_cut]
  refine ⟨n, d, .cut (n.value / d.value) precision, hn, hd, toNat_add_of_lt hsum,
    hat precision (UInt32.le_refl _), ?_, ?_, ?_⟩
  · rw [Decimal.rescale_cut _ Std.min_le_left, Decimal.rescale_cut _ Std.min_le_right]
  · intro hle
    exact Decimal.rescale_cut _ hle
  · intro q hq
    rw [Decimal.rescale_cut _ hq]
    exact hat q hq

def negativeThirds : Calculator := ⟨.seeded ⟨7, 1⟩, some ⟨some ⟨1, 2⟩, [⟨.sub, ⟨4, 2⟩⟩]⟩⟩

theorem negativeThirds_agree :
    negativeThirds.PrecisionsFit 5 ∧
    negativeThirds.evaluate = .ok ⟨-23333, 3⟩ ∧
    negativeThirds.calculateAt 5 .towardZero = .ok ⟨-2333333, 5⟩ ∧
    (⟨-2333333, 5⟩ : Decimal).rescale 3 = (⟨-23333, 3⟩ : Decimal).rescale 3 ∧
    negativeThirds.calculateAt 1 .towardZero = .ok ((⟨-2333333, 5⟩ : Decimal).rescale 1) := by
  have hfit : negativeThirds.PrecisionsFit 5 := by
    intro n d hn hd
    have hn' : negativeThirds.numerator.evaluate = .ok ⟨7, 1⟩ := by decide
    have hd' : negativeThirds.divisor = .ok ⟨-3, 2⟩ := by decide
    obtain rfl := Except.ok.inj (hn'.symm.trans hn)
    obtain rfl := Except.ok.inj (hd'.symm.trans hd)
    decide
  have hev : negativeThirds.evaluate = .ok ⟨-23333, 3⟩ := by decide
  have hat : negativeThirds.calculateAt 5 .towardZero = .ok ⟨-2333333, 5⟩ := by decide
  obtain ⟨-, hok⟩ := evaluations_agree negativeThirds hfit
  obtain ⟨n, d, y, -, -, -, hy, hshared, -, hshorter⟩ := hok _ hev
  obtain rfl := Except.ok.inj (hat.symm.trans hy)
  exact ⟨hfit, hev, hat, hshared, hshorter 1 (by decide)⟩

end FixedDecimal.Calculator

import FixedDecimal.Proofs.Calculator.Agreement
import FixedDecimal.Proofs.Rounding.Tie

/-! Rounding the buffered quotient afterwards against dividing at the target. The buffer has cut
the quotient off, so the second rounding may see a tie that the quotient itself never was; only the
mode that asks for the even neighbour is led astray by it. -/
namespace FixedDecimal

namespace Decimal

def halfUnit (precision : Precision) : ℚ := 1 / 2 / 10 ^ precision.toNat

theorem abs_value_sub_eq_halfUnit {x y : Decimal} :
    |x.value - y.value| = halfUnit y.precision ↔
      |x.value * 10 ^ y.precision.toNat - y.magnitude| = 1 / 2 := by
  have hp : (0 : ℚ) < 10 ^ y.precision.toNat := by positivity
  have hy : (y.magnitude : ℚ) = y.value * 10 ^ y.precision.toNat := by
    rw [value, div_mul_cancel₀ _ hp.ne']
  rw [hy, ← sub_mul, abs_mul, abs_of_pos hp, halfUnit, eq_div_iff hp.ne']

/-- The digits between two precisions count an even number of units. -/
theorem exists_half {p t : Precision} (h : t < p) :
    ∃ k : ℕ, 0 < k ∧ (10 : ℚ) ^ p.toNat = 10 ^ t.toNat * (2 * k : ℕ) := by
  obtain ⟨j, hj⟩ := Nat.exists_eq_add_of_lt (UInt32.lt_iff_toNat_lt.mp h)
  refine ⟨5 * 10 ^ j, by positivity, ?_⟩
  rw [hj, pow_succ, pow_add]
  push_cast
  ring

theorem exists_scale (q : ℚ) {p t : Precision} (h : t < p) :
    ∃ k : ℕ, 0 < k ∧ q * 10 ^ t.toNat = q * 10 ^ p.toNat / (2 * k : ℕ) ∧
      (cut q p).value * 10 ^ t.toNat =
        Rounding.truncate (q * 10 ^ p.toNat) / (2 * k : ℕ) := by
  obtain ⟨k, hk, hpow⟩ := exists_half h
  have hk' : ((2 * k : ℕ) : ℚ) ≠ 0 := by exact_mod_cast (Nat.mul_pos two_pos hk).ne'
  refine ⟨k, hk, ?_, ?_⟩
  · rw [hpow]
    field_simp
  · rw [value, cut, hpow]
    field_simp

section
variable {q : ℚ} {p t : Precision} {n : ℤ}

theorem rounds_halfAway_of_cut (h : t < p)
    (hr : Rounding.halfAwayFromZero.Rounds ((cut q p).value * 10 ^ t.toNat) n) :
    Rounding.halfAwayFromZero.Rounds (q * 10 ^ t.toNat) n := by
  obtain ⟨k, hk, hq, hcut⟩ := exists_scale q h
  rw [hcut] at hr
  rw [hq]
  exact Rounding.rounds_halfAway_truncate hk hr

/-- A quotient midway between two decimals has no digit beyond the finer precision. -/
theorem value_cut_of_tie (h : t < p) (htie : Rounding.Tie (q * 10 ^ t.toNat)) :
    (cut q p).value = q := by
  obtain ⟨k, hk, hq, -⟩ := exists_scale q h
  rw [hq] at htie
  rw [value, cut, Rounding.truncate_eq_of_tie hk htie]
  field_simp

/-- After an inexact cut the even neighbour is never to be asked for. -/
theorem rounds_halfEven_of_inexact (h : t < p) (hne : (cut q p).value ≠ q)
    (hr : Rounding.halfAwayFromZero.Rounds ((cut q p).value * 10 ^ t.toNat) n) :
    Rounding.halfEven.Rounds (q * 10 ^ t.toNat) n := by
  have hoff : ¬Rounding.Tie (q * 10 ^ t.toNat) := fun htie => hne (value_cut_of_tie h htie)
  exact (Rounding.rounds_halfEven_iff hoff).mpr (rounds_halfAway_of_cut h hr)

theorem rounds_halfEven_of_cut (h : t < p)
    (hsafe : (cut q p).value = q ∨ ¬Rounding.Tie ((cut q p).value * 10 ^ t.toNat))
    (hr : Rounding.halfEven.Rounds ((cut q p).value * 10 ^ t.toNat) n) :
    Rounding.halfEven.Rounds (q * 10 ^ t.toNat) n := by
  by_cases heq : (cut q p).value = q
  · rwa [heq] at hr
  · have hoff := hsafe.resolve_left heq
    exact rounds_halfEven_of_inexact h heq ((Rounding.rounds_halfEven_iff hoff).mp hr)

end

/-! ## Decimals midway between two neighbours -/

theorem half_lost_iff {x : Decimal} {t : Precision} :
    |x.value - (x.rescale t).value| = halfUnit t ↔ Rounding.Tie (x.value * 10 ^ t.toNat) := by
  rw [rescale_eq_cut, Rounding.tie_iff]
  exact abs_value_sub_eq_halfUnit (y := cut x.value t)

section
variable {x y : Decimal} {t : Precision} (hy : y.precision = t)
  (htie : Rounding.Tie (x.value * 10 ^ t.toNat))
include hy htie

theorem abs_sub_of_tie (hle : |x.value * 10 ^ t.toNat - y.magnitude| ≤ 1 / 2) :
    |x.value - y.value| = halfUnit t := by
  subst hy
  exact abs_value_sub_eq_halfUnit.mpr (htie.abs_sub_of_le hle)

theorem abs_lt_abs_of_tie (hle : |x.value * 10 ^ t.toNat| ≤ |(y.magnitude : ℚ)|) :
    |x.value| < |y.value| := by
  subst hy
  have hp : (0 : ℚ) < 10 ^ y.precision.toNat := by positivity
  have hlt := lt_of_le_of_ne hle (htie.abs_ne y.magnitude)
  rw [abs_mul, abs_of_pos hp] at hlt
  rwa [value.eq_def y, abs_div, abs_of_pos hp, lt_div_iff₀ hp]

end

end Decimal

namespace Calculator

theorem calculateAt_of_rounds {c : Calculator} {n d y : Decimal} {precision : Precision}
    {mode : Rounding} (hsides : c.sides = .ok (n, d))
    (hfit : d.precision.toNat + precision.toNat < 2 ^ 32) (hy : y.precision = precision)
    (hr : mode.Rounds (n.value / d.value * 10 ^ precision.toNat) y.magnitude) :
    c.calculateAt precision mode = .ok y := by
  obtain ⟨-, -, hz⟩ := sides_eq_ok.mp hsides
  have hm := (n.rounds_quotientAt hz hfit mode).unique hr
  rw [calculateAt_eq, hsides]
  exact congrArg Except.ok (Decimal.ext hm hy.symm)

/-- The two ways part only where the division is inexact and the digits beyond the target are half
a unit, for the quotient lies beyond the tie that is left of it. -/
theorem rounded_later (c : Calculator) {precision : Precision} (hfit : c.PrecisionsFit precision)
    {x : Decimal} (hx : c.evaluate = .ok x) (hlt : precision < x.precision) :
    c.calculateAt precision .halfAwayFromZero = .ok (x.rescaleWith precision .halfAwayFromZero) ∧
    ∃ n d, c.numerator.evaluate = .ok n ∧ c.divisor = .ok d ∧
      x.precision.toNat = n.precision.toNat + d.precision.toNat ∧
      (¬(x.value ≠ n.value / d.value ∧
          |x.value - (x.rescale precision).value| = Decimal.halfUnit precision) →
        c.calculateAt precision .halfEven = .ok (x.rescaleWith precision .halfEven)) ∧
      (x.value ≠ n.value / d.value →
          |x.value - (x.rescale precision).value| = Decimal.halfUnit precision →
        ∃ far, c.calculateAt precision .halfEven = .ok far ∧ far.precision = precision ∧
          |x.value - far.value| = Decimal.halfUnit precision ∧ |x.value| < |far.value| ∧
          |x.value - (x.rescaleWith precision .halfEven).value| = Decimal.halfUnit precision ∧
          Even (x.rescaleWith precision .halfEven).magnitude ∧
          |far.magnitude - (x.rescaleWith precision .halfEven).magnitude| ≤ 1) := by
  have haway := x.rounds_rescaleWith precision .halfAwayFromZero
  have heven := x.rounds_rescaleWith precision .halfEven
  have hp := x.precision_rescaleWith precision
  rw [evaluate_eq, map_eq_ok] at hx
  obtain ⟨⟨n, d⟩, hsides, hq⟩ := hx
  obtain ⟨hn, hd, hz⟩ := sides_eq_ok.mp hsides
  obtain ⟨hdouble, hsum, htarget⟩ := hfit n d hn hd
  obtain rfl := (n.bufferedQuotient_eq_cut hz hdouble hsum).symm.trans hq
  have hlt : precision < n.precision + d.precision := hlt
  refine ⟨calculateAt_of_rounds hsides htarget (hp _) (Decimal.rounds_halfAway_of_cut hlt haway),
    n, d, hn, hd, toNat_add_of_lt hsum, ?_, ?_⟩
  · intro hsafe
    rw [Decimal.half_lost_iff, not_and_or, not_ne_iff] at hsafe
    have hr := Decimal.rounds_halfEven_of_cut hlt hsafe heven
    exact calculateAt_of_rounds hsides htarget (hp _) hr
  · intro hne hlost
    have htie := Decimal.half_lost_iff.mp hlost
    have hr := Decimal.rounds_halfEven_of_inexact hlt hne haway
    -- both results are half a unit away; this one is beyond the decimal, the other one is even
    have hbeyond := haway.2 (htie.abs_sub_of_le haway.1)
    have hparity := heven.2 (htie.abs_sub_of_le heven.1)
    exact ⟨_, calculateAt_of_rounds hsides htarget (hp _) hr, hp _,
      Decimal.abs_sub_of_tie (hp _) htie haway.1, Decimal.abs_lt_abs_of_tie (hp _) htie hbeyond,
      Decimal.abs_sub_of_tie (hp _) htie heven.1, hparity,
      Rounding.abs_sub_le_one haway.1 heven.1⟩

/-- `-7.6` over `3` is below `-2.5`, which is all that the buffer has of it. -/
def misleadingTie : Calculator := ⟨.seeded ⟨-76, 1⟩, some (.seeded ⟨3, 0⟩)⟩

theorem misleadingTie_rounded_later :
    misleadingTie.PrecisionsFit 0 ∧ misleadingTie.evaluate = .ok ⟨-25, 1⟩ ∧
    (0 : Precision) < (⟨-25, 1⟩ : Decimal).precision ∧
    (⟨-25, 1⟩ : Decimal).value ≠ (⟨-76, 1⟩ : Decimal).value / (⟨3, 0⟩ : Decimal).value ∧
    |(⟨-25, 1⟩ : Decimal).value - ((⟨-25, 1⟩ : Decimal).rescale 0).value| = Decimal.halfUnit 0 ∧
    misleadingTie.calculateAt 0 .halfAwayFromZero = .ok ⟨-3, 0⟩ ∧
    misleadingTie.calculateAt 0 .halfEven = .ok ⟨-3, 0⟩ ∧
    |(⟨-25, 1⟩ : Decimal).value| < |(⟨-3, 0⟩ : Decimal).value| ∧
    (⟨-25, 1⟩ : Decimal).rescaleWith 0 .halfEven = ⟨-2, 0⟩ := by
  have hn : misleadingTie.numerator.evaluate = .ok ⟨-76, 1⟩ := by decide
  have hd : misleadingTie.divisor = .ok ⟨3, 0⟩ := by decide
  have hev : misleadingTie.evaluate = .ok ⟨-25, 1⟩ := by decide
  have hfit : misleadingTie.PrecisionsFit 0 := by
    intro n d hn' hd'
    obtain rfl := Except.ok.inj (hn.symm.trans hn')
    obtain rfl := Except.ok.inj (hd.symm.trans hd')
    decide
  have hone : (1 : Precision).toNat = 1 := rfl
  have hinexact : (⟨-25, 1⟩ : Decimal).value ≠
      (⟨-76, 1⟩ : Decimal).value / (⟨3, 0⟩ : Decimal).value := by
    norm_num [Decimal.value, hone]
  have hcut : (⟨-25, 1⟩ : Decimal).rescale 0 = ⟨-2, 0⟩ := by decide
  have hhalf : |(⟨-25, 1⟩ : Decimal).value - ((⟨-25, 1⟩ : Decimal).rescale 0).value| =
      Decimal.halfUnit 0 := by
    rw [hcut]
    norm_num [Decimal.value, Decimal.halfUnit, hone, abs_div]
  obtain ⟨haway, n, d, hn', hd', -, -, htie⟩ := rounded_later misleadingTie hfit hev (by decide)
  obtain rfl := Except.ok.inj (hn.symm.trans hn')
  obtain rfl := Except.ok.inj (hd.symm.trans hd')
  obtain ⟨far, hfar, -, -, habove, -⟩ := htie hinexact hhalf
  have hat : misleadingTie.calculateAt 0 .halfEven = .ok ⟨-3, 0⟩ := by decide
  obtain rfl := Except.ok.inj (hat.symm.trans hfar)
  exact ⟨hfit, hev, by decide, hinexact, hhalf, haway, hat, habove, by decide⟩

end Calculator

end FixedDecimal

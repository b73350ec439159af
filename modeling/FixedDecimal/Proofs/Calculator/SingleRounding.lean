import FixedDecimal.Proofs.Calculator.Fraction
import FixedDecimal.Proofs.Calculator.Reachable
import FixedDecimal.Proofs.Formula.Refinement

/-! A calculation at a given precision is the exact fraction of its two formulas, rounded one time.
Nothing is lost before, since a formula that was built never divides. -/
namespace FixedDecimal

theorem Decimal.value_eq_zero {x : Decimal} : x.value = 0 ↔ x.magnitude = 0 := by
  simp [value]

namespace Calculator

def exactDenominator (c : Calculator) : ℚ := (c.denominator.map Formula.exact).getD 1

structure SumsFit (c : Calculator) (precision : Precision) : Prop where
  numerator : c.numerator.exponent < 2 ^ 32
  denominator : ∀ d ∈ c.denominator, d.exponent + precision.toNat < 2 ^ 32

theorem divisor_exact {c : Calculator} (hw : c.WellFormed) {precision : Precision}
    (hfit : c.SumsFit precision) :
    ∃ d, c.divisor = .ok d ∧ d.value = c.exactDenominator ∧
      d.precision.toNat + precision.toNat < 2 ^ 32 := by
  cases hd : c.denominator with
  | none =>
    refine ⟨⟨1, 0⟩, by rw [divisor, hd], ?_, by simpa using precision.toNat_lt⟩
    rw [Decimal.value_one, exactDenominator, hd]
    rfl
  | some formula =>
    obtain ⟨seed, hseed⟩ := Option.isSome_iff_exists.mp (hw.seeded formula hd).2
    have hsum := hfit.denominator formula hd
    obtain ⟨d, hev, hv, hp⟩ :=
      Formula.evaluate_exact hseed (hw.denominator_undivided formula hd) (by omega)
    refine ⟨d, by rw [divisor, hd]; exact hev, ?_, by omega⟩
    rw [hv, exactDenominator, hd]
    rfl

theorem numerator_exact {c : Calculator} (hw : c.WellFormed) {precision : Precision}
    (hfit : c.SumsFit precision) (hs : c.numerator.seed.isSome) :
    ∃ n, c.numerator.evaluate = .ok n ∧ n.value = c.numerator.exact := by
  obtain ⟨seed, hseed⟩ := Option.isSome_iff_exists.mp hs
  obtain ⟨n, hev, hv, -⟩ := Formula.evaluate_exact hseed hw.numerator_undivided hfit.numerator
  exact ⟨n, hev, hv⟩

/-- The three outcomes of a calculation at a precision. -/
theorem calculateAt_cases {c : Calculator} (hw : c.WellFormed) {precision : Precision}
    (hfit : c.SumsFit precision) (mode : Rounding) :
    (c.numerator.seed = none ∧ c.calculateAt precision mode = .error .emptyFormula) ∨
    (c.numerator.seed ≠ none ∧ c.exactDenominator = 0 ∧
      c.calculateAt precision mode = .error .divisionByZero) ∨
    (c.numerator.seed ≠ none ∧ c.exactDenominator ≠ 0 ∧
      ∃ m, c.calculateAt precision mode = .ok ⟨m, precision⟩ ∧
        mode.Rounds (c.numerator.exact / c.exactDenominator * 10 ^ precision.toNat) m) := by
  by_cases hs : c.numerator.seed = none
  · exact .inl ⟨hs, by rw [calculateAt, Formula.evaluate_of_no_seed hs, error_bind]⟩
  obtain ⟨n, hn, hnv⟩ := numerator_exact hw hfit (Option.isSome_iff_ne_none.mpr hs)
  obtain ⟨d, hd, hdv, hdp⟩ := divisor_exact hw hfit
  have hzero : d.magnitude = 0 ↔ c.exactDenominator = 0 := by
    rw [← hdv, Decimal.value_eq_zero]
  by_cases hz : d.magnitude = 0
  · refine .inr (.inl ⟨hs, hzero.mp hz, ?_⟩)
    rw [calculateAt_eq, sides, hn, ok_bind, hd, ok_bind, if_pos hz]
    rfl
  · have hrounds := n.rounds_quotientAt hz hdp mode
    rw [hnv, hdv] at hrounds
    refine .inr (.inr ⟨hs, mt hzero.mpr hz, (n.quotientAt d precision mode).magnitude, ?_, hrounds⟩)
    rw [calculateAt_eq, sides_eq_ok.mpr ⟨hn, hd, hz⟩]
    rfl

/-- Calculations of one exact fraction agree at every precision, whatever digits their values
were given with. -/
theorem calculateAt_congr {c d : Calculator} (hc : c.WellFormed) (hd : d.WellFormed)
    (hseed : c.numerator.seed = none ↔ d.numerator.seed = none)
    (hnumerator : c.numerator.exact = d.numerator.exact)
    (hdenominator : c.exactDenominator = d.exactDenominator) {precision : Precision}
    (hcfit : c.SumsFit precision) (hdfit : d.SumsFit precision) (mode : Rounding) :
    c.calculateAt precision mode = d.calculateAt precision mode := by
  obtain ⟨hs, h⟩ | ⟨hs, hz, h⟩ | ⟨hs, hz, m, h, hm⟩ := calculateAt_cases hc hcfit mode
  · rw [h, calculateAt, Formula.evaluate_of_no_seed (hseed.mp hs), error_bind]
  · rw [hdenominator] at hz
    obtain ⟨hs', -⟩ | ⟨-, -, h'⟩ | ⟨-, hz', -⟩ := calculateAt_cases hd hdfit mode
    · exact absurd (hseed.mpr hs') hs
    · rw [h, h']
    · exact absurd hz hz'
  · rw [hnumerator, hdenominator] at hm
    rw [hdenominator] at hz
    obtain ⟨hs', -⟩ | ⟨-, hz', -⟩ | ⟨-, -, m', h', hm'⟩ := calculateAt_cases hd hdfit mode
    · exact absurd (hseed.mpr hs') hs
    · exact absurd hz' hz
    · rw [h, h', hm.unique hm']

/-- The exact values alone tell the outcome of a calculation at a precision; no step on the way
gives up a digit. -/
theorem Reachable.rounded_once {c : Calculator} (hc : Reachable c) {precision : Precision}
    (hfit : c.SumsFit precision) (mode : Rounding) :
    (c.calculateAt precision mode = .error .emptyFormula ↔ c.numerator.seed = none) ∧
    (c.calculateAt precision mode = .error .divisionByZero ↔
      c.numerator.seed ≠ none ∧ c.exactDenominator = 0) ∧
    (c.numerator.seed ≠ none → c.exactDenominator ≠ 0 →
      ∃ m, c.calculateAt precision mode = .ok ⟨m, precision⟩ ∧
        ∀ k, mode.Rounds (c.numerator.exact / c.exactDenominator * 10 ^ precision.toNat) k ↔
          k = m) ∧
    ∀ f, f = c.numerator ∨ f ∈ c.denominator → ∀ seed ∈ f.seed, ∀ steps, steps <+: f.steps →
      ∃ acc, steps.foldlM Running.apply (Running.ofDecimal seed) = .ok acc ∧
        acc.measured.value = Formula.exact ⟨f.seed, steps⟩ := by
  have hw := hc.wellFormed
  have hlossless : ∀ f, f = c.numerator ∨ f ∈ c.denominator → ∀ seed ∈ f.seed, ∀ steps,
      steps <+: f.steps → ∃ acc, steps.foldlM Running.apply (Running.ofDecimal seed) = .ok acc ∧
        acc.measured.value = Formula.exact ⟨f.seed, steps⟩ := by
    intro f hmem seed hseed steps hsub
    obtain rfl | hf := hmem
    · exact Formula.foldlM_exact hseed hw.numerator_undivided hfit.numerator hsub
    · have hsum := hfit.denominator f hf
      exact Formula.foldlM_exact hseed (hw.denominator_undivided f hf) (by omega) hsub
  obtain ⟨hs, h⟩ | ⟨hs, hz, h⟩ | ⟨hs, hz, m, h, hm⟩ := calculateAt_cases hw hfit mode
  · refine ⟨by simp [h, hs], by simp [h, hs], fun hs' => absurd hs hs', hlossless⟩
  · refine ⟨by simp [h, hs], by simp [h, hs, hz], fun _ hz' => absurd hz hz', hlossless⟩
  · refine ⟨by simp [h, hs], by simp [h, hz], fun _ _ => ⟨m, h, fun k => ?_⟩, hlossless⟩
    exact ⟨fun hk => hk.unique hm, fun hk => hk ▸ hm⟩

theorem nestedChains_rounded_once :
    Reachable nestedChains ∧ nestedChains.SumsFit 0 ∧
    nestedChains.numerator.exact / nestedChains.exactDenominator = -5 / 2 ∧
    nestedChains.calculateAt 0 .halfEven = .ok ⟨-2, 0⟩ := by
  have hfit : nestedChains.SumsFit 0 := by
    refine ⟨by decide, ?_⟩
    intro d hd
    cases hd
    decide
  have hq : nestedChains.numerator.exact / nestedChains.exactDenominator = -5 / 2 := by
    have hone : (1 : Precision).toNat = 1 := rfl
    have htwo : (2 : Precision).toNat = 2 := rfl
    norm_num [nestedChains, exactDenominator, Formula.exact, Step.exact, Operator.exact,
      Decimal.value, hone, htwo]
  have hz : nestedChains.exactDenominator ≠ 0 := by
    intro hz
    norm_num [hz] at hq
  obtain ⟨-, -, hok, -⟩ := nestedChains_reachable.rounded_once hfit .halfEven
  obtain ⟨m, hm, hround⟩ := hok (by decide) hz
  have heven : (-2 : ℤ) = m := by
    refine (hround _).mp ?_
    rw [hq, Rounding.Rounds]
    norm_num
  exact ⟨nestedChains_reachable, hfit, hq, by rw [hm, heven]⟩

end Calculator

end FixedDecimal

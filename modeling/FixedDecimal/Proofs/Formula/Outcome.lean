import FixedDecimal.Proofs.Formula.Refinement

/-! How a formula with a first value comes out. As long as its precisions stay in range, only a zero
divisor keeps it from a value. -/
namespace FixedDecimal

def Step.DividesByZero (step : Step) : Prop :=
  step.operator = .div ∧ step.operand.magnitude = 0

instance : DecidablePred Step.DividesByZero := fun _ => inferInstanceAs (Decidable (_ ∧ _))

namespace Running

theorem apply_of_zero (acc : Running) {step : Step} (h : step.DividesByZero) :
    acc.apply step = .error .divisionByZero := by
  obtain ⟨ho, hz⟩ := h
  simp only [apply, ho, ofDecimal, hz, Rounding.quotient_zero, error_bind]

/-- The first zero divisor ends the run, whatever comes before and after it. -/
theorem foldlM_of_zero {steps : List Step} {acc : Running} (hfit : Fits acc.exponent steps)
    (hzero : ∃ step ∈ steps, step.DividesByZero) :
    steps.foldlM apply acc = .error .divisionByZero := by
  induction steps generalizing acc with
  | nil =>
    obtain ⟨step, hmem, -⟩ := hzero
    cases hmem
  | cons step rest ih =>
    rw [List.foldlM_cons]
    by_cases hstep : step.DividesByZero
    · rw [apply_of_zero acc hstep, error_bind]
    · obtain ⟨next, happly, hnext⟩ := apply_measured hfit.1 fun ho hz => hstep ⟨ho, hz⟩
      obtain ⟨zero, hmem, hz⟩ := hzero
      have hrest : zero ∈ rest := by
        obtain rfl | h := List.mem_cons.mp hmem
        · exact absurd hz hstep
        · exact h
      rw [happly, ok_bind]
      exact ih (by rw [exponent_of_measured hnext]; exact hfit.2) ⟨zero, hrest, hz⟩

end Running

namespace Formula
variable {f : Formula} {seed : Decimal}

theorem precisionSum_of_seed (hseed : f.seed = some seed) :
    f.precisionSum =
      seed.precision.toNat + (f.steps.map fun step => step.operand.precision.toNat).sum := by
  simp only [precisionSum, hseed, Option.toList_some, List.singleton_append, List.map_cons,
    List.map_map, List.sum_cons, Function.comp_def]

theorem fits_of_precisionSum (hseed : f.seed = some seed) (hsum : f.precisionSum < 2 ^ 32) :
    Running.Fits seed.precision.toNat f.steps := by
  apply Running.fits_of_sum
  rw [precisionSum_of_seed hseed] at hsum
  rw [Nat.abs_cast]
  exact_mod_cast hsum

/-- The two outcomes of a formula whose precisions stay in range. -/
theorem evaluate_cases (hseed : f.seed = some seed) (hsum : f.precisionSum < 2 ^ 32) :
    ((∃ step ∈ f.steps, step.DividesByZero) ∧ f.evaluate = .error .divisionByZero) ∨
    ((¬∃ step ∈ f.steps, step.DividesByZero) ∧
      ∃ x, f.evaluate = .ok x ∧ x.value = (Measured.run seed f.steps).value ∧
        (x.precision.toNat : ℤ) = max (Measured.run seed f.steps).exponent 0) := by
  have hfit := fits_of_precisionSum hseed hsum
  by_cases hzero : ∃ step ∈ f.steps, step.DividesByZero
  · refine .inl ⟨hzero, ?_⟩
    simp only [evaluate, hseed]
    rw [Running.foldlM_of_zero hfit hzero, error_bind]
  · exact .inr ⟨hzero, evaluate_of_fits hseed hfit fun step hstep ho hz =>
      hzero ⟨step, hstep, ho, hz⟩⟩

end Formula

end FixedDecimal

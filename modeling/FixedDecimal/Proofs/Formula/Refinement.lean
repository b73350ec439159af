import FixedDecimal.Proofs.Formula.Reference

/-! A running magnitude and exponent follow the measured rational at every step, as long as no
power of ten leaves the range of a precision. Small precisions never let one leave it. -/
namespace FixedDecimal

namespace Running

def measured (acc : Running) : Measured := ⟨acc.magnitude / 10 ^ acc.exponent, acc.exponent⟩

theorem measured_ofDecimal (x : Decimal) : (ofDecimal x).measured = Measured.ofDecimal x := by
  simp [measured, ofDecimal, Measured.ofDecimal, Decimal.value]

theorem raise_of_lt {exponent : ℤ} (m : ℤ) (h0 : 0 ≤ exponent) (h1 : exponent < 2 ^ 32) :
    raise m exponent = .ok (m * pow10 exponent.toNat) := by
  have hsize : exponent < UInt32.size := h1
  by_cases h : exponent = 0 ∨ m = 0
  · rw [raise, if_pos h]
    obtain rfl | rfl := h <;> simp [pow10]
  · rw [raise, if_neg h, if_pos ⟨h0, hsize⟩]

theorem raised_div (m : ℤ) {e k : ℤ} (hk : 0 ≤ k) :
    ((m * pow10 k.toNat : ℤ) : ℚ) / 10 ^ (e + k) = m / 10 ^ e := by
  have hp : (10 : ℚ) ^ k = 10 ^ k.toNat := by
    conv_lhs => rw [← Int.toNat_of_nonneg hk, zpow_natCast]
  rw [Int.cast_mul, cast_pow10, zpow_add₀ (by norm_num), hp]
  field_simp

/-- Both sides of a sum are widened to the finer exponent and keep their values. -/
theorem align {m n e p : ℤ} (h : |e - p| < 2 ^ 32) :
    ∃ l r, raise m (max e p - e) = .ok l ∧ raise n (max e p - p) = .ok r ∧
      (l : ℚ) / 10 ^ max e p = m / 10 ^ e ∧ (r : ℚ) / 10 ^ max e p = n / 10 ^ p := by
  rw [abs_lt] at h
  have hl : 0 ≤ max e p - e := by omega
  have hr : 0 ≤ max e p - p := by omega
  refine ⟨_, _, raise_of_lt m hl (by omega), raise_of_lt n hr (by omega), ?_, ?_⟩
  · have hd := raised_div m (e := e) hl
    rwa [add_sub_cancel] at hd
  · have hd := raised_div n (e := p) hr
    rwa [add_sub_cancel] at hd

theorem value_eq_zpow (x : Decimal) : x.value = x.magnitude / 10 ^ (x.precision.toNat : ℤ) := by
  rw [Decimal.value, zpow_natCast]

theorem quotient_scaled (m n e p : ℤ) :
    (m : ℚ) / 10 ^ e / (n / 10 ^ p) * 10 ^ (e - p) = m / n := by
  rw [zpow_sub₀ (by norm_num)]
  field_simp

/-- One step of the machine is one step of the reference. -/
theorem apply_measured {acc : Running} {step : Step}
    (hgap : |acc.exponent - step.operand.precision.toNat| < 2 ^ 32)
    (hdiv : step.operator = .div → step.operand.magnitude ≠ 0) :
    ∃ next, acc.apply step = .ok next ∧ next.measured = acc.measured.apply step := by
  obtain ⟨l, r, hl, hr, hlv, hrv⟩ :=
    align (m := acc.magnitude) (n := step.operand.magnitude) hgap
  cases ho : step.operator with
  | add =>
    refine ⟨⟨l + r, _⟩, by simp only [apply, ofDecimal, ho, hl, hr]; rfl, ?_⟩
    simp only [measured, Measured.apply, ho, Int.cast_add, add_div, hlv, hrv, value_eq_zpow]
  | sub =>
    refine ⟨⟨l - r, _⟩, by simp only [apply, ofDecimal, ho, hl, hr]; rfl, ?_⟩
    simp only [measured, Measured.apply, ho, Int.cast_sub, sub_div, hlv, hrv, value_eq_zpow]
  | mul =>
    refine ⟨_, by simp only [apply, ho]; rfl, ?_⟩
    simp only [measured, Measured.apply, ho, ofDecimal, value_eq_zpow, Int.cast_mul,
      zpow_add₀ (by norm_num : (10 : ℚ) ≠ 0), div_mul_div_comm]
  | div =>
    have hn := hdiv ho
    refine ⟨_, by simp only [apply, ho, ofDecimal, Rounding.quotient_of_ne_zero _ _ hn]; rfl, ?_⟩
    simp only [measured, Measured.apply, Measured.cutAfter, ho, value_eq_zpow, quotient_scaled,
      Rounding.truncate_quotient _ hn]

theorem exponent_of_measured {acc next : Running} {step : Step}
    (h : next.measured = acc.measured.apply step) :
    next.exponent = step.exponent acc.exponent :=
  (congrArg Measured.exponent h).trans (Measured.apply_exponent _ step)

/-- No power of ten that the steps need leaves the range of a precision. -/
def Fits : ℤ → List Step → Prop
  | e, [] => |e| < 2 ^ 32
  | e, step :: rest => |e - step.operand.precision.toNat| < 2 ^ 32 ∧ Fits (step.exponent e) rest

theorem foldlM_measured {steps : List Step} {acc : Running} (hfit : Fits acc.exponent steps)
    (hdiv : ∀ step ∈ steps, step.operator = .div → step.operand.magnitude ≠ 0) :
    ∃ last, steps.foldlM apply acc = .ok last ∧ |last.exponent| < 2 ^ 32 ∧
      last.measured = steps.foldl Measured.apply acc.measured := by
  induction steps generalizing acc with
  | nil => exact ⟨acc, rfl, hfit, rfl⟩
  | cons step rest ih =>
    obtain ⟨next, hstep, hnext⟩ := apply_measured hfit.1 (hdiv step List.mem_cons_self)
    obtain ⟨last, hrun, hlast, hm⟩ := ih (by rw [exponent_of_measured hnext]; exact hfit.2)
      fun t ht => hdiv t (List.mem_cons_of_mem step ht)
    refine ⟨last, ?_, hlast, ?_⟩
    · rw [List.foldlM_cons, hstep]
      exact hrun
    · rw [hm, hnext, List.foldl_cons]

theorem finish_measured {acc : Running} (h : |acc.exponent| < 2 ^ 32) :
    ∃ x, acc.finish = .ok x ∧ x.value = acc.measured.value ∧
      (x.precision.toNat : ℤ) = max acc.exponent 0 := by
  rw [abs_lt] at h
  by_cases hneg : acc.exponent < 0
  · have hk : 0 ≤ -acc.exponent := by omega
    have hd := raised_div acc.magnitude (e := acc.exponent) hk
    refine ⟨⟨_, 0⟩, by rw [finish, if_pos hneg, raise_of_lt _ hk (by omega)]; rfl, ?_, ?_⟩
    · rw [measured, ← hd]
      simp [Decimal.value]
    · simp [hneg.le]
  · have hn : acc.exponent.toNat < 2 ^ 32 := by omega
    have hp : (UInt32.ofNat acc.exponent.toNat).toNat = acc.exponent.toNat :=
      UInt32.toNat_ofNat_of_lt' hn
    have hsize : acc.exponent < UInt32.size := h.2
    refine ⟨_, by rw [finish, if_neg hneg, if_pos hsize], ?_, ?_⟩
    · rw [measured, value_eq_zpow, hp, Int.toNat_of_nonneg (not_lt.mp hneg)]
    · rw [hp]; omega

/-- A bound on the digits at the start and of the operands keeps every step in range. -/
theorem fits_of_sum {e : ℤ} {steps : List Step}
    (h : |e| + (steps.map fun step => step.operand.precision.toNat).sum < 2 ^ 32) :
    Fits e steps := by
  induction steps generalizing e with
  | nil => simpa [Fits] using h
  | cons step rest ih =>
    rw [List.map_cons, List.sum_cons, Nat.cast_add] at h
    have hgap := abs_sub e step.operand.precision.toNat
    have hnext := Step.abs_exponent_le e step
    rw [Nat.abs_cast] at hgap
    exact ⟨by omega, ih (by omega)⟩

/-- Without a division the exponent only grows, so its last value bounds every step. -/
theorem fits_of_exponent {e : ℤ} {steps : List Step} (hdiv : ∀ step ∈ steps, step.operator ≠ .div)
    (h0 : 0 ≤ e) (h : steps.foldl Step.exponent e < 2 ^ 32) : Fits e steps := by
  induction steps generalizing e with
  | nil => exact abs_lt.mpr ⟨by omega, h⟩
  | cons step rest ih =>
    have hrest : ∀ t ∈ rest, t.operator ≠ .div := fun t ht => hdiv t (List.mem_cons_of_mem step ht)
    have hle := le_foldl_exponent (step :: rest) e hdiv
    have hp := step.operand.precision.toNat_lt
    have hnext := Step.le_exponent e (hdiv step List.mem_cons_self)
    exact ⟨abs_lt.mpr ⟨by omega, by omega⟩, ih hrest (by omega) h⟩

end Running

namespace Formula

theorem evaluate_of_fits {f : Formula} {seed : Decimal} (hseed : f.seed = some seed)
    (hfit : Running.Fits seed.precision.toNat f.steps)
    (hdiv : ∀ step ∈ f.steps, step.operator = .div → step.operand.magnitude ≠ 0) :
    ∃ x, f.evaluate = .ok x ∧ x.value = (Measured.run seed f.steps).value ∧
      (x.precision.toNat : ℤ) = max (Measured.run seed f.steps).exponent 0 := by
  have hstart : Running.Fits (Running.ofDecimal seed).exponent f.steps := hfit
  obtain ⟨last, hrun, hlast, hm⟩ := Running.foldlM_measured hstart hdiv
  obtain ⟨x, hx, hv, hp⟩ := Running.finish_measured hlast
  rw [Running.measured_ofDecimal] at hm
  have he : last.exponent = (Measured.run seed f.steps).exponent := congrArg Measured.exponent hm
  refine ⟨x, ?_, by rw [hv, hm]; rfl, by rw [hp, he]⟩
  simp only [evaluate, hseed, hrun]
  exact hx

def precisionSum (f : Formula) : ℕ :=
  ((f.seed.toList ++ f.steps.map Step.operand).map fun x => x.precision.toNat).sum

theorem evaluate_refines {f : Formula} {seed : Decimal} (hseed : f.seed = some seed)
    (hsum : f.precisionSum < 2 ^ 32)
    (hdiv : ∀ step ∈ f.steps, step.operator = .div → step.operand.magnitude ≠ 0) :
    ∃ x, f.evaluate = .ok x ∧ x.value = (Measured.run seed f.steps).value ∧
      (x.precision.toNat : ℤ) = max (Measured.run seed f.steps).exponent 0 ∧
      (f.hasDivision = false → x.value = f.exact) := by
  have hfit : Running.Fits seed.precision.toNat f.steps := by
    apply Running.fits_of_sum
    simp only [precisionSum, hseed, Option.toList_some, List.singleton_append, List.map_cons,
      List.map_map, List.sum_cons, Function.comp_def] at hsum
    rw [Nat.abs_cast]
    exact_mod_cast hsum
  obtain ⟨x, hx, hv, hp⟩ := evaluate_of_fits hseed hfit hdiv
  refine ⟨x, hx, hv, hp, fun h => ?_⟩
  rw [hv, Measured.run, Measured.foldl_apply_value _ _ (hasDivision_eq_false.mp h), exact, hseed]
  rfl

/-- `-100000001 / 4.000000 + 0.25 * 0.3`; the division takes away six digits before the point. -/
def sinking : Formula :=
  ⟨some ⟨-100000001, 0⟩, [⟨.div, ⟨4000000, 6⟩⟩, ⟨.add, ⟨25, 2⟩⟩, ⟨.mul, ⟨3, 1⟩⟩]⟩

theorem sinking_refines :
    sinking.precisionSum < 2 ^ 32 ∧
    (∀ step ∈ sinking.steps, step.operator = .div → step.operand.magnitude ≠ 0) ∧
    (Measured.run ⟨-100000001, 0⟩ (sinking.steps.take 1)).exponent = -6 ∧
    sinking.evaluate = .ok ⟨-7499999925, 3⟩ ∧
    (Measured.run ⟨-100000001, 0⟩ sinking.steps).value = -7499999925 / 1000 ∧
    max (Measured.run ⟨-100000001, 0⟩ sinking.steps).exponent 0 = 3 := by
  have hsum : sinking.precisionSum < 2 ^ 32 := by decide
  have hdiv : ∀ step ∈ sinking.steps, step.operator = .div → step.operand.magnitude ≠ 0 := by
    decide
  have hev : sinking.evaluate = .ok ⟨-7499999925, 3⟩ := by decide
  obtain ⟨x, hx, hv, hp, -⟩ := evaluate_refines (f := sinking) rfl hsum hdiv
  obtain rfl := Except.ok.inj (hev.symm.trans hx)
  have hthree : (3 : Precision).toNat = 3 := rfl
  refine ⟨hsum, hdiv, rfl, hev, ?_, hp.symm⟩
  rw [← hv, Decimal.value, hthree]
  norm_num

/-! ## Formulas without a division -/

/-- No step loses a digit: after any of them the machine stands at the exact rational. -/
theorem foldlM_exact {f : Formula} {seed : Decimal} (hseed : f.seed = some seed)
    (hdiv : f.hasDivision = false) (hfit : f.exponent < 2 ^ 32) {steps : List Step}
    (hsub : steps <+: f.steps) :
    ∃ acc, steps.foldlM Running.apply (Running.ofDecimal seed) = .ok acc ∧
      acc.measured.value = exact ⟨f.seed, steps⟩ := by
  have hundivided := hasDivision_eq_false.mp hdiv
  have hsteps : ∀ step ∈ steps, step.operator ≠ .div :=
    fun step hstep => hundivided step (hsub.subset hstep)
  obtain ⟨rest, hrest⟩ := hsub
  -- the exponent never sinks here, so its last value bounds it after `steps` too
  have hlater := le_foldl_exponent rest (steps.foldl Step.exponent seed.precision.toNat)
    fun step hstep => hundivided step (hrest ▸ List.mem_append_right steps hstep)
  have hlast := exponent_of_seed hseed
  rw [← hrest, List.foldl_append] at hlast
  have hbound : steps.foldl Step.exponent seed.precision.toNat < 2 ^ 32 := by omega
  have hstart : Running.Fits (Running.ofDecimal seed).exponent steps :=
    Running.fits_of_exponent hsteps (Int.natCast_nonneg _) hbound
  obtain ⟨acc, hacc, -, hm⟩ := Running.foldlM_measured hstart
    fun step hstep ho => absurd ho (hsteps step hstep)
  refine ⟨acc, hacc, ?_⟩
  rw [hm, Measured.foldl_apply_value _ _ hsteps, Running.measured_ofDecimal, exact, hseed]
  rfl

theorem evaluate_exact {f : Formula} {seed : Decimal} (hseed : f.seed = some seed)
    (hdiv : f.hasDivision = false) (hfit : f.exponent < 2 ^ 32) :
    ∃ x, f.evaluate = .ok x ∧ x.value = f.exact ∧ (x.precision.toNat : ℤ) = f.exponent := by
  have hsteps := hasDivision_eq_false.mp hdiv
  have hrun := exponent_of_seed hseed
  obtain ⟨x, hx, hv, hp⟩ := evaluate_of_fits hseed
    (Running.fits_of_exponent hsteps (Int.natCast_nonneg _) (hrun ▸ hfit))
    fun step hstep ho => absurd ho (hsteps step hstep)
  refine ⟨x, hx, ?_, ?_⟩
  · rw [hv, Measured.run, Measured.foldl_apply_value _ _ hsteps, exact, hseed]
    rfl
  · rw [hp, Measured.run, Measured.foldl_apply_exponent, Measured.ofDecimal, ← hrun,
      max_eq_left (exponent_nonneg hdiv)]

end Formula

end FixedDecimal

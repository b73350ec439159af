import FixedDecimal.Proofs.Calculator.Reachable
import FixedDecimal.Proofs.Calculator.Fraction
import FixedDecimal.Proofs.Formula.Powers

/-! Calculations in stages. The value of a formula may take its place before further steps exactly
if the formula does not end below exponent zero, which takes a division. The values of the two
formulas of a calculation may always take their places. -/
namespace FixedDecimal

namespace Running
variable {acc : Running} {x : Decimal}

/-- A decimal has lost a negative exponent, or it is where a run can go on. -/
theorem finish_cases (h : acc.finish = .ok x) :
    (acc.exponent < 0 ∧ x.precision = 0) ∨ (0 ≤ acc.exponent ∧ ofDecimal x = acc) := by
  unfold finish at h
  split at h
  · next hneg =>
    obtain ⟨m, -, ⟨⟩⟩ := bind_eq_ok.mp h
    exact .inl ⟨hneg, rfl⟩
  · next hneg =>
    have h0 : 0 ≤ acc.exponent := not_lt.mp hneg
    split at h
    · next hsize =>
      cases h
      have hlt : acc.exponent.toNat < 2 ^ 32 := (Int.toNat_lt h0).mpr hsize
      refine .inr ⟨h0, ?_⟩
      rw [ofDecimal, UInt32.toNat_ofNat_of_lt' hlt, Int.toNat_of_nonneg h0]
    · cases h

theorem finish_ofDecimal (x : Decimal) : (ofDecimal x).finish = .ok x := by
  have h0 : ¬(x.precision.toNat : ℤ) < 0 := by omega
  have hsize : (x.precision.toNat : ℤ) < UInt32.size := by exact_mod_cast x.precision.toNat_lt
  rw [finish, ofDecimal, if_neg h0, if_pos hsize, Int.toNat_natCast, UInt32.ofNat_toNat]

end Running

/-! ## Formulas -/

namespace Formula
variable {f : Formula} {x : Decimal}

def pushAll (f : Formula) (steps : List Step) : Formula :=
  steps.foldl (fun f step => f.push step.operator step.operand) f

theorem pushAll_eq (f : Formula) (steps : List Step) :
    f.pushAll steps = ⟨f.seed, f.steps ++ steps⟩ := by
  induction steps generalizing f with
  | nil =>
    rw [List.append_nil]
    rfl
  | cons step rest ih =>
    rw [List.append_cons]
    exact ih (f.push step.operator step.operand)

def reached (f : Formula) : Except Error Running :=
  match f.seed with
  | none => .error .emptyFormula
  | some seed => f.steps.foldlM Running.apply (Running.ofDecimal seed)

theorem evaluate_eq_reached (f : Formula) : f.evaluate = f.reached >>= Running.finish := by
  cases hs : f.seed with
  | none => simp only [evaluate, reached, hs, error_bind]
  | some seed => simp only [evaluate, reached, hs]

theorem reached_seeded (x : Decimal) : (seeded x).reached = .ok (Running.ofDecimal x) := rfl

theorem evaluate_seeded (x : Decimal) : (seeded x).evaluate = .ok x := by
  rw [evaluate_eq_reached, reached_seeded, ok_bind, Running.finish_ofDecimal]

theorem reached_pushAll (f : Formula) (steps : List Step) :
    (f.pushAll steps).reached = f.reached >>= fun acc => steps.foldlM Running.apply acc := by
  rw [pushAll_eq]
  cases hs : f.seed with
  | none => simp only [reached, hs, error_bind]
  | some seed => simp only [reached, hs, List.foldlM_append]

/-- Further steps see nothing of a formula but where it led. -/
theorem evaluate_pushAll_of_reached {acc : Running} (h : f.reached = .ok acc)
    (steps : List Step) :
    (f.pushAll steps).evaluate = steps.foldlM Running.apply acc >>= Running.finish := by
  rw [evaluate_eq_reached, reached_pushAll, h, ok_bind]

theorem exponent_of_reached {acc : Running} (h : f.reached = .ok acc) :
    acc.exponent = f.exponent := by
  cases hs : f.seed with
  | none =>
    simp only [reached, hs] at h
    cases h
  | some seed =>
    simp only [reached, hs] at h
    rw [Running.exponent_of_foldlM h, exponent_of_seed hs]
    rfl

/-- A value takes the place of its formula before any steps exactly if the formula does not end
below exponent zero. -/
theorem staged_iff (h : f.evaluate = .ok x) :
    (∀ rest, ((seeded x).pushAll rest).evaluate = (f.pushAll rest).evaluate) ↔
      0 ≤ f.exponent := by
  rw [evaluate_eq_reached, bind_eq_ok] at h
  obtain ⟨acc, hacc, hfinish⟩ := h
  rw [← exponent_of_reached hacc]
  have hstaged := evaluate_pushAll_of_reached (reached_seeded x)
  have hwhole := evaluate_pushAll_of_reached hacc
  obtain ⟨hneg, hp⟩ | ⟨h0, hstart⟩ := Running.finish_cases hfinish
  · -- a factor with one fractional digit tells them apart: the formula has no place for the digit
    refine iff_of_false (fun hall => ?_) (not_le.mpr hneg)
    have hfactor : [⟨.mul, ⟨1, 1⟩⟩].foldlM Running.apply (Running.ofDecimal x) =
        .ok (Running.ofDecimal ⟨x.magnitude * 1, 1⟩) := by
      simp only [Running.ofDecimal, hp]
      rfl
    have hone := hall [⟨.mul, ⟨1, 1⟩⟩]
    rw [hstaged, hwhole, hfactor, ok_bind, Running.finish_ofDecimal] at hone
    obtain ⟨-, hzero⟩ | ⟨-, hstart⟩ := Running.finish_cases hone.symm
    · exact absurd (show (1 : Precision) = 0 from hzero) (by decide)
    · have hexponent : (1 : ℤ) = acc.exponent + 1 := congrArg Running.exponent hstart
      omega
  · refine iff_of_true (fun rest => ?_) h0
    rw [hstaged, hwhole, hstart]

/-- After `-100000001 / 4.000000` the value keeps the fractional digit of the next factor; the
formula does not. -/
example : (⟨some ⟨-100000001, 0⟩, [⟨.div, ⟨4000000, 6⟩⟩]⟩ : Formula).evaluate =
      .ok ⟨-25000000, 0⟩ ∧
    (⟨some ⟨-25000000, 0⟩, [⟨.mul, ⟨5, 1⟩⟩]⟩ : Formula).evaluate = .ok ⟨-125000000, 1⟩ ∧
    (⟨some ⟨-100000001, 0⟩, [⟨.div, ⟨4000000, 6⟩⟩, ⟨.mul, ⟨5, 1⟩⟩]⟩ : Formula).evaluate =
      .ok ⟨-12500000, 0⟩ := by decide

end Formula

/-! ## Calculators -/

namespace Calculator

/-- Both ways of evaluating see nothing of the formulas but their values. -/
theorem sides_of_values {c : Calculator} {formula : Formula} {n d : Decimal}
    (hd : c.denominator = some formula) (hn : c.numerator.evaluate = .ok n)
    (hf : formula.evaluate = .ok d) :
    (⟨.seeded n, some (.seeded d)⟩ : Calculator).sides = c.sides := by
  simp only [sides, divisor, hd, hn, hf, Formula.evaluate_seeded]

end Calculator

open Calculator in
/-- Evaluating in stages changes nothing: neither before any further steps of a formula that has no
division so far, nor for the two formulas of a calculator. -/
theorem staging_keeps_results :
    (∀ (f : Formula) (x : Decimal), f.hasDivision = false → f.evaluate = .ok x → ∀ rest,
      ((Formula.seeded x).pushAll rest).evaluate = (f.pushAll rest).evaluate) ∧
    ∀ (c : Calculator) (formula : Formula) (n d : Decimal), c.denominator = some formula →
      c.numerator.evaluate = .ok n → formula.evaluate = .ok d →
      ∃ staged, (first n).divideBy d = .ok staged ∧ staged.evaluate = c.evaluate ∧
        ∀ precision mode, staged.calculateAt precision mode = c.calculateAt precision mode := by
  refine ⟨?_, ?_⟩
  · intro f x hdiv hx
    exact (Formula.staged_iff hx).mpr (Formula.exponent_nonneg hdiv)
  · intro c formula n d hd hn hf
    have hsides := sides_of_values hd hn hf
    refine ⟨⟨.seeded n, some (.seeded d)⟩, divideBy_eq_ok.mpr ⟨rfl, rfl, rfl⟩, ?_, ?_⟩
    · rw [evaluate_eq, evaluate_eq, hsides]
    · intro precision mode
      rw [calculateAt_eq, calculateAt_eq, hsides]

def undividedSum : Formula := ⟨some ⟨15, 1⟩, [⟨.mul, ⟨-25, 2⟩⟩, ⟨.add, ⟨7, 0⟩⟩]⟩

open Calculator in
/-- The formula is divided by `0.0004` later, which takes away a digit before the point. -/
theorem undividedSum_keeps_results :
    undividedSum.hasDivision = false ∧ undividedSum.evaluate = .ok ⟨6625, 3⟩ ∧
    ((Formula.seeded ⟨6625, 3⟩).pushAll [⟨.div, ⟨4, 4⟩⟩, ⟨.sub, ⟨5, 1⟩⟩]).evaluate =
      .ok ⟨165595, 1⟩ ∧
    nestedChains.numerator.evaluate = .ok ⟨-2625, 3⟩ ∧
    (∃ formula, nestedChains.denominator = some formula ∧ formula.evaluate = .ok ⟨105, 2⟩) ∧
    ∃ staged, (first ⟨-2625, 3⟩).divideBy ⟨105, 2⟩ = .ok staged ∧
      staged.evaluate = .ok ⟨-250000, 5⟩ ∧ staged.calculateAt 0 .halfEven = .ok ⟨-2, 0⟩ := by
  have hdiv : undividedSum.hasDivision = false := by decide
  have hsum : undividedSum.evaluate = .ok ⟨6625, 3⟩ := by decide
  have hrest : (undividedSum.pushAll [⟨.div, ⟨4, 4⟩⟩, ⟨.sub, ⟨5, 1⟩⟩]).evaluate =
      .ok ⟨165595, 1⟩ := by decide
  have hn : nestedChains.numerator.evaluate = .ok ⟨-2625, 3⟩ := by decide
  have hd : (⟨some ⟨4, 0⟩, [⟨.sub, ⟨1, 0⟩⟩, ⟨.mul, ⟨35, 2⟩⟩]⟩ : Formula).evaluate =
      .ok ⟨105, 2⟩ := by decide
  have hquotient : nestedChains.evaluate = .ok ⟨-250000, 5⟩ := by decide
  have hrounded : nestedChains.calculateAt 0 .halfEven = .ok ⟨-2, 0⟩ := by decide
  obtain ⟨hformula, hcalculator⟩ := staging_keeps_results
  obtain ⟨staged, hopen, hev, hat⟩ := hcalculator nestedChains _ _ _ rfl hn hd
  exact ⟨hdiv, hsum, (hformula _ _ hdiv hsum _).trans hrest, hn, ⟨_, rfl, hd⟩, staged, hopen,
    hev.trans hquotient, (hat 0 .halfEven).trans hrounded⟩

end FixedDecimal

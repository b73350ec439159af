import FixedDecimal.Proofs.Calculator.Reachable

/-! Calculators that were given a step before their first value. The numerator is not empty, so it
takes no first value any more, and it has none, so no denominator can be opened. -/
namespace FixedDecimal.Calculator

structure Seedless (c : Calculator) : Prop where
  seed : c.numerator.seed = none
  steps : c.numerator.steps ≠ []
  denominator : c.denominator = none

theorem Reachable.seedless {c : Calculator} (h : Reachable c) (hseed : c.numerator.seed = none)
    (hsteps : c.numerator.steps ≠ []) : c.Seedless := by
  refine ⟨hseed, hsteps, Option.eq_none_iff_forall_not_mem.mpr fun d hd => ?_⟩
  have hs := (h.wellFormed.seeded d hd).1
  rw [hseed] at hs
  cases hs

/-! ## What is left to do with them -/

variable {c : Calculator}

theorem value_of_seedless (h : c.Seedless) (x : Decimal) :
    c.value x = .error .formulaAlreadyPopulated := by
  have hfull : c.numerator.isEmpty = false := by
    simp [Formula.isEmpty, h.steps]
  rw [value, h.denominator, Formula.withSeed, hfull]
  rfl

theorem evaluate_of_seedless (h : c.Seedless) : c.evaluate = .error .emptyFormula := by
  rw [evaluate, Formula.evaluate_of_no_seed h.seed, error_bind]

theorem calculateAt_of_seedless (h : c.Seedless) (precision : Precision) (mode : Rounding) :
    c.calculateAt precision mode = .error .emptyFormula := by
  rw [calculateAt, Formula.evaluate_of_no_seed h.seed, error_bind]

theorem asFormula_of_seedless (h : c.Seedless) (slot : Slot) :
    c.asFormula slot = .error .emptyFormula := by
  rw [asFormula, h.denominator, h.seed]
  rfl

theorem Seedless.append (h : c.Seedless) (operator : Operator) (x : Decimal) :
    (c.append operator x).Seedless := by
  have happend : c.append operator x = ⟨c.numerator.push operator x, none⟩ := by
    rw [Calculator.append, h.denominator]
  rw [happend]
  exact ⟨h.seed, List.append_ne_nil_of_right_ne_nil _ (List.cons_ne_nil _ _), rfl⟩

/-- The only calls that succeed add one more step. -/
theorem Seedless.call (h : c.Seedless) {k : Call} {next : Calculator} (hk : c.call k = .ok next) :
    next.Seedless := by
  cases k with
  | value x => cases (value_of_seedless h x).symm.trans hk
  | add x => cases hk; exact h.append .add x
  | subtractBy x => cases hk; exact h.append .sub x
  | multiplyBy x => cases hk; exact h.append .mul x
  | divideBy x => cases (divideBy_of_no_seed h.seed x).symm.trans hk
  | inDenominator build => cases (inDenominator_of_no_seed h.seed build).symm.trans hk

/-! ## Any number of further calls -/

/-- A call that fails leaves the calculator as it was. -/
def attempt (c : Calculator) (k : Call) : Calculator :=
  match c.call k with
  | .ok next => next
  | .error _ => c

def attempts (c : Calculator) (calls : List Call) : Calculator := calls.foldl attempt c

theorem Seedless.attempt (h : c.Seedless) (k : Call) : (c.attempt k).Seedless := by
  rw [Calculator.attempt]
  split
  · next next hk => exact h.call hk
  · exact h

theorem Seedless.attempts (h : c.Seedless) (calls : List Call) : (c.attempts calls).Seedless := by
  induction calls generalizing c with
  | nil => exact h
  | cons k rest ih => exact ih (h.attempt k)

/-- A step before the first value is never made good: no call gives the numerator a value or opens
a denominator, no evaluation succeeds, and no other calculator can use the chain. -/
theorem seedless_for_good (hc : Reachable c) (hseed : c.numerator.seed = none)
    (hsteps : c.numerator.steps ≠ []) (calls : List Call) :
    let last := c.attempts calls
    last.numerator.seed = none ∧ last.denominator = none ∧
    (∀ x, last.value x = .error .formulaAlreadyPopulated) ∧
    (∀ x, last.divideBy x = .error .denominatorBeforeNumerator) ∧
    (∀ build, last.inDenominator build = .error .denominatorBeforeNumerator) ∧
    last.evaluate = .error .emptyFormula ∧
    (∀ precision mode, last.calculateAt precision mode = .error .emptyFormula) ∧
    ∀ build, build empty = .ok last →
      inNumerator build = .error .emptyFormula ∧
      ∀ d : Calculator, d.numerator.seed.isSome → d.denominator = none →
        d.inDenominator build = .error .emptyFormula := by
  intro last
  have h : last.Seedless := (hc.seedless hseed hsteps).attempts calls
  refine ⟨h.seed, h.denominator, value_of_seedless h, divideBy_of_no_seed h.seed,
    inDenominator_of_no_seed h.seed, evaluate_of_seedless h, calculateAt_of_seedless h, ?_⟩
  intro build hbuild
  refine ⟨?_, fun d hs hd => ?_⟩
  · rw [inNumerator, hbuild, ok_bind, asFormula_of_seedless h, error_bind]
  · have hallowed : d.checkDenominatorAllowed = .ok () :=
      checkDenominatorAllowed_eq_ok.mpr ⟨hs, hd⟩
    rw [inDenominator, hallowed, ok_bind, hbuild, ok_bind, asFormula_of_seedless h, error_bind]

def lateStart : Calculator := empty.add ⟨1, 0⟩

theorem lateStart_seedless_for_good :
    Reachable lateStart ∧ lateStart.numerator.seed = none ∧ lateStart.numerator.steps ≠ [] ∧
    lateStart.attempts [.value ⟨5, 0⟩, .multiplyBy ⟨2, 0⟩, .divideBy ⟨3, 0⟩] =
      ⟨⟨none, [⟨.add, ⟨1, 0⟩⟩, ⟨.mul, ⟨2, 0⟩⟩]⟩, none⟩ ∧
    (⟨⟨none, [⟨.add, ⟨1, 0⟩⟩, ⟨.mul, ⟨2, 0⟩⟩]⟩, none⟩ : Calculator).value ⟨7, 1⟩ =
      .error .formulaAlreadyPopulated ∧
    (first ⟨8, 0⟩).inDenominator (fun c => .ok ((c.add ⟨1, 0⟩).multiplyBy ⟨2, 0⟩)) =
      .error .emptyFormula := by
  have hreachable : Reachable lateStart :=
    Reachable.append .empty (by decide : Operator.add ≠ .div) ⟨1, 0⟩
  have hseed : lateStart.numerator.seed = none := rfl
  have hsteps : lateStart.numerator.steps ≠ [] := by decide
  obtain ⟨-, -, hvalue, -, -, -, -, hchain⟩ := seedless_for_good hreachable hseed hsteps
    [.value ⟨5, 0⟩, .multiplyBy ⟨2, 0⟩, .divideBy ⟨3, 0⟩]
  exact ⟨hreachable, hseed, hsteps, rfl, hvalue _, (hchain _ rfl).2 _ rfl rfl⟩

end FixedDecimal.Calculator

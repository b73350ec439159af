import FixedDecimal.Formula
import FixedDecimal.Proofs.Decimal.Value

/-! What a formula means in rational numbers. The exact meaning knows nothing of digits; the
measured one counts the digits that are kept, for a division cuts its quotient off after them. -/
namespace FixedDecimal

def Operator.exact : Operator → ℚ → ℚ → ℚ
  | .add, x, y => x + y
  | .sub, x, y => x - y
  | .mul, x, y => x * y
  | .div, x, y => x / y

def Step.exact (x : ℚ) (step : Step) : ℚ := step.operator.exact x step.operand.value

/-- The rational that the steps reach from the first value, or from zero if there is none. -/
def Formula.exact (f : Formula) : ℚ :=
  f.steps.foldl Step.exact ((f.seed.map Decimal.value).getD 0)

/-- A rational and the number of its fractional digits that are kept. A negative number gives up
digits before the point. -/
structure Measured where
  value : ℚ
  exponent : ℤ

namespace Measured

def ofDecimal (x : Decimal) : Measured := ⟨x.value, x.precision.toNat⟩

def cutAfter (x : ℚ) (exponent : ℤ) : ℚ := Rounding.truncate (x * 10 ^ exponent) / 10 ^ exponent

def apply (s : Measured) (step : Step) : Measured :=
  let v := step.operand.value
  let p : ℤ := step.operand.precision.toNat
  match step.operator with
  | .add => ⟨s.value + v, max s.exponent p⟩
  | .sub => ⟨s.value - v, max s.exponent p⟩
  | .mul => ⟨s.value * v, s.exponent + p⟩
  | .div => ⟨cutAfter (s.value / v) (s.exponent - p), s.exponent - p⟩

def run (seed : Decimal) (steps : List Step) : Measured := steps.foldl apply (ofDecimal seed)

theorem apply_value (s : Measured) {step : Step} (h : step.operator ≠ .div) :
    (s.apply step).value = step.exact s.value := by
  cases ho : step.operator with
  | add => simp only [apply, Step.exact, Operator.exact, ho]
  | sub => simp only [apply, Step.exact, Operator.exact, ho]
  | mul => simp only [apply, Step.exact, Operator.exact, ho]
  | div => exact absurd ho h

theorem foldl_apply_value (steps : List Step) (s : Measured)
    (h : ∀ step ∈ steps, step.operator ≠ .div) :
    (steps.foldl apply s).value = steps.foldl Step.exact s.value := by
  induction steps generalizing s with
  | nil => rfl
  | cons step rest ih =>
    rw [List.foldl_cons, List.foldl_cons, ih _ fun t ht => h t (List.mem_cons_of_mem step ht),
      s.apply_value (h step List.mem_cons_self)]

end Measured

/-! ## The count of digits alone -/

def Step.exponent (e : ℤ) (step : Step) : ℤ :=
  match step.operator with
  | .add | .sub => max e step.operand.precision.toNat
  | .mul => e + step.operand.precision.toNat
  | .div => e - step.operand.precision.toNat

def Formula.exponent (f : Formula) : ℤ :=
  f.steps.foldl Step.exponent ((f.seed.map fun x => (x.precision.toNat : ℤ)).getD 0)

theorem Formula.exponent_of_seed {f : Formula} {seed : Decimal} (hseed : f.seed = some seed) :
    f.exponent = f.steps.foldl Step.exponent seed.precision.toNat := by
  rw [exponent, hseed]
  rfl

theorem Measured.apply_exponent (s : Measured) (step : Step) :
    (s.apply step).exponent = step.exponent s.exponent := by
  cases ho : step.operator <;> simp only [Measured.apply, Step.exponent, ho]

theorem Measured.foldl_apply_exponent (steps : List Step) (s : Measured) :
    (steps.foldl apply s).exponent = steps.foldl Step.exponent s.exponent := by
  induction steps generalizing s with
  | nil => rfl
  | cons step rest ih => rw [List.foldl_cons, List.foldl_cons, ih, apply_exponent]

theorem Step.abs_exponent_le (e : ℤ) (step : Step) :
    |step.exponent e| ≤ |e| + step.operand.precision.toNat := by
  have hu := le_abs_self e
  have hl := neg_abs_le e
  rw [abs_le]
  cases ho : step.operator <;> simp only [Step.exponent, ho] <;> omega

theorem abs_foldl_exponent_le (steps : List Step) (e : ℤ) :
    |steps.foldl Step.exponent e| ≤
      |e| + (steps.map fun step => step.operand.precision.toNat).sum := by
  induction steps generalizing e with
  | nil => simp
  | cons step rest ih =>
    have hstep := step.abs_exponent_le e
    have hrest := ih (step.exponent e)
    rw [List.foldl_cons, List.map_cons, List.sum_cons, Nat.cast_add]
    omega

theorem Step.le_exponent (e : ℤ) {step : Step} (h : step.operator ≠ .div) :
    e ≤ step.exponent e := by
  cases ho : step.operator with
  | add => simp only [Step.exponent, ho]; omega
  | sub => simp only [Step.exponent, ho]; omega
  | mul => simp only [Step.exponent, ho]; omega
  | div => exact absurd ho h

theorem le_foldl_exponent (steps : List Step) (e : ℤ) (h : ∀ step ∈ steps, step.operator ≠ .div) :
    e ≤ steps.foldl Step.exponent e := by
  induction steps generalizing e with
  | nil => exact le_refl e
  | cons step rest ih =>
    have hrest := ih (step.exponent e) fun t ht => h t (List.mem_cons_of_mem step ht)
    exact (Step.le_exponent e (h step List.mem_cons_self)).trans hrest

theorem Formula.exponent_nonneg {f : Formula} (h : f.hasDivision = false) : 0 ≤ f.exponent := by
  have hseed : 0 ≤ (f.seed.map fun x => (x.precision.toNat : ℤ)).getD 0 := by
    cases f.seed with
    | none => exact le_refl 0
    | some seed => exact Int.natCast_nonneg _
  exact hseed.trans (le_foldl_exponent f.steps _ (hasDivision_eq_false.mp h))

end FixedDecimal

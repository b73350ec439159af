import FixedDecimal.Proofs.Formula.Outcome
import Mathlib.Data.List.SplitBy

/-! Steps that trade places. Sums among themselves, products among themselves and quotients among
themselves may be done in any order, for each of them acts on the measured rational as a whole. -/
namespace FixedDecimal

inductive Family where
  | sum
  | product
  | quotient
deriving DecidableEq

def Operator.family : Operator → Family
  | .add | .sub => .sum
  | .mul => .product
  | .div => .quotient

theorem Operator.family_eq_product {operator : Operator} :
    operator.family = .product ↔ operator = .mul := by
  cases operator <;> simp [family]

theorem Operator.family_eq_quotient {operator : Operator} :
    operator.family = .quotient ↔ operator = .div := by
  cases operator <;> simp [family]

namespace Step

def SameFamily (a b : Step) : Prop := a.operator.family = b.operator.family

instance : DecidableRel SameFamily := fun _ _ => inferInstanceAs (Decidable (_ = _))

instance : Std.Symm SameFamily := ⟨fun _ _ h => h.symm⟩

instance : Trans SameFamily SameFamily SameFamily := ⟨fun h h' => h.trans h'⟩

def addend (step : Step) : ℚ :=
  if step.operator = .sub then -step.operand.value else step.operand.value

end Step

namespace Measured
variable (s : Measured) {a b : Step}

theorem apply_of_sum (h : a.operator.family = .sum) :
    s.apply a = ⟨s.value + a.addend, max s.exponent a.operand.precision.toNat⟩ := by
  cases ho : a.operator with
  | add => simp [apply, Step.addend, ho]
  | sub => simp [apply, Step.addend, ho, sub_eq_add_neg]
  | mul => rw [ho] at h; cases h
  | div => rw [ho] at h; cases h

theorem cutAfter_quotient (v : ℚ) (e : ℤ) (x : Decimal) :
    cutAfter (v / x.value) (e - x.precision.toNat) =
      Rounding.truncate (v * 10 ^ e / x.magnitude) / 10 ^ (e - x.precision.toNat : ℤ) := by
  have hv : v / x.value * 10 ^ (e - x.precision.toNat : ℤ) = v * 10 ^ e / x.magnitude := by
    rw [Running.value_eq_zpow, zpow_sub₀ (by norm_num)]
    field_simp
  rw [cutAfter, hv]

/-- Two quotients come to one by the product of the divisors, zero among them or not. -/
theorem apply_quotients (ha : a.operator = .div) (hb : b.operator = .div) :
    (s.apply a).apply b =
      ⟨Rounding.truncate (s.value * 10 ^ s.exponent / (a.operand.magnitude * b.operand.magnitude)) /
          10 ^ (s.exponent - a.operand.precision.toNat - b.operand.precision.toNat : ℤ),
        s.exponent - a.operand.precision.toNat - b.operand.precision.toNat⟩ := by
  have hp : (10 : ℚ) ^ (s.exponent - a.operand.precision.toNat : ℤ) ≠ 0 :=
    zpow_ne_zero _ (by norm_num)
  simp only [apply, ha, hb, cutAfter_quotient]
  rw [div_mul_cancel₀ _ hp, Rounding.truncate_truncate_div_intCast, div_div]

/-- Two neighbours of one family may be swapped. -/
theorem apply_comm (h : a.SameFamily b) : (s.apply a).apply b = (s.apply b).apply a := by
  rw [Step.SameFamily] at h
  cases ha : a.operator.family with
  | sum =>
    have hb := h.symm.trans ha
    simp only [apply_of_sum _ ha, apply_of_sum _ hb, add_right_comm, max_right_comm]
  | product =>
    have hb := Operator.family_eq_product.mp (h.symm.trans ha)
    rw [Operator.family_eq_product] at ha
    simp only [apply, ha, hb, mul_right_comm, add_right_comm]
  | quotient =>
    have hb := Operator.family_eq_quotient.mp (h.symm.trans ha)
    rw [Operator.family_eq_quotient] at ha
    rw [apply_quotients s ha hb, apply_quotients s hb ha,
      mul_comm (a.operand.magnitude : ℚ), sub_right_comm]

theorem foldl_apply_perm {run other : List Step} (h : run.Perm other)
    (hfamily : ∀ a ∈ run, ∀ b ∈ run, a.SameFamily b) :
    run.foldl apply s = other.foldl apply s :=
  h.foldl_eq' (fun a ha b hb s => s.apply_comm (hfamily a ha b hb)) s

theorem foldl_apply_runs {runs others : List (List Step)} (h : List.Forall₂ List.Perm runs others)
    (hfamily : ∀ run ∈ runs, ∀ a ∈ run, ∀ b ∈ run, a.SameFamily b) :
    runs.flatten.foldl apply s = others.flatten.foldl apply s := by
  induction h generalizing s with
  | nil => rfl
  | cons hrun _ ih =>
    rw [List.flatten_cons, List.flatten_cons, List.foldl_append, List.foldl_append,
      s.foldl_apply_perm hrun (hfamily _ List.mem_cons_self),
      ih _ fun run hmem => hfamily run (List.mem_cons_of_mem _ hmem)]

end Measured

/-! ## Formulas -/

namespace Formula
variable {f g : Formula} {seed : Decimal}

def runs (f : Formula) : List (List Step) :=
  f.steps.splitBy fun a b => decide (a.SameFamily b)

structure Rearranges (f g : Formula) : Prop where
  seed : g.seed = f.seed
  steps : ∃ others, List.Forall₂ List.Perm f.runs others ∧ g.steps = others.flatten

theorem family_of_mem_runs {run : List Step} (h : run ∈ f.runs) :
    ∀ a ∈ run, ∀ b ∈ run, a.SameFamily b := by
  have hchain : run.IsChain Step.SameFamily :=
    (List.isChain_of_mem_splitBy h).imp fun _ _ => of_decide_eq_true
  have hpairs := List.isChain_iff_pairwise.mp hchain
  intro a ha b hb
  refine hpairs.forall_of_forall ?_ ha hb
  intro step _
  exact Eq.refl step.operator.family

theorem Rearranges.perm (h : f.Rearranges g) : f.steps.Perm g.steps := by
  obtain ⟨others, hruns, hsteps⟩ := h.steps
  rw [hsteps, ← List.flatten_splitBy _ f.steps]
  exact List.Perm.flatten_congr hruns

theorem Rearranges.run (h : f.Rearranges g) (seed : Decimal) :
    Measured.run seed g.steps = Measured.run seed f.steps := by
  obtain ⟨others, hruns, hsteps⟩ := h.steps
  have hfold := (Measured.ofDecimal seed).foldl_apply_runs hruns fun _ => family_of_mem_runs
  rw [runs, List.flatten_splitBy] at hfold
  rw [Measured.run, Measured.run, hsteps, hfold]

theorem Rearranges.precisionSum (h : f.Rearranges g) : g.precisionSum = f.precisionSum := by
  have hvalues := (h.perm.symm.map Step.operand).append_left f.seed.toList
  rw [Formula.precisionSum, Formula.precisionSum, h.seed]
  exact (hvalues.map _).sum_nat

/-- Rearranged steps come to the same decimal, or both times to a zero divisor. -/
theorem evaluate_rearranged (h : f.Rearranges g) (hseed : f.seed = some seed)
    (hsum : f.precisionSum < 2 ^ 32) :
    (∃ x, f.evaluate = .ok x ∧ g.evaluate = .ok x) ∨
    (f.evaluate = .error .divisionByZero ∧ g.evaluate = .error .divisionByZero) := by
  have hzero : (∃ step ∈ f.steps, step.DividesByZero) ↔ ∃ step ∈ g.steps, step.DividesByZero := by
    simp only [h.perm.mem_iff]
  have hg := evaluate_cases (h.seed.trans hseed) (h.precisionSum.trans_lt hsum)
  rw [h.run, ← hzero] at hg
  obtain ⟨hz, hf⟩ | ⟨hz, x, hf, hv, hp⟩ := evaluate_cases hseed hsum
  · obtain ⟨-, hg⟩ | ⟨hz', -⟩ := hg
    · exact .inr ⟨hf, hg⟩
    · exact absurd hz hz'
  · obtain ⟨hz', -⟩ | ⟨-, y, hg, hv', hp'⟩ := hg
    · exact absurd hz' hz
    · have hprecision : x.precision = y.precision := UInt32.toNat_inj.mp (by omega)
      obtain rfl := Decimal.eq_of_value (hv.trans hv'.symm) hprecision
      exact .inl ⟨x, hf, hg⟩

/-- `-70000001 / 3.00 / -0.7 + 0.25 - 1.5 * 0.3 * 4`, which has lost digits before the sum. -/
def mixedRuns : Formula :=
  ⟨some ⟨-70000001, 0⟩, [⟨.div, ⟨300, 2⟩⟩, ⟨.div, ⟨-7, 1⟩⟩, ⟨.add, ⟨25, 2⟩⟩, ⟨.sub, ⟨15, 1⟩⟩,
    ⟨.mul, ⟨3, 1⟩⟩, ⟨.mul, ⟨4, 0⟩⟩]⟩

def turnedRuns : Formula :=
  ⟨some ⟨-70000001, 0⟩, [⟨.div, ⟨-7, 1⟩⟩, ⟨.div, ⟨300, 2⟩⟩, ⟨.sub, ⟨15, 1⟩⟩, ⟨.add, ⟨25, 2⟩⟩,
    ⟨.mul, ⟨4, 0⟩⟩, ⟨.mul, ⟨3, 1⟩⟩]⟩

theorem mixedRuns_rearranged :
    mixedRuns.Rearranges turnedRuns ∧ mixedRuns.seed = some ⟨-70000001, 0⟩ ∧
    mixedRuns.precisionSum < 2 ^ 32 ∧
    mixedRuns.evaluate = .ok ⟨39999598500, 3⟩ ∧ turnedRuns.evaluate = .ok ⟨39999598500, 3⟩ := by
  have hturned : mixedRuns.Rearranges turnedRuns :=
    ⟨rfl, _, .cons (.swap _ _ _) (.cons (.swap _ _ _) (.cons (.swap _ _ _) .nil)), rfl⟩
  have hsum : mixedRuns.precisionSum < 2 ^ 32 := by decide
  have hev : mixedRuns.evaluate = .ok ⟨39999598500, 3⟩ := by decide
  obtain ⟨x, hx, hother⟩ | ⟨hx, -⟩ := evaluate_rearranged hturned rfl hsum
  · obtain rfl := Except.ok.inj (hev.symm.trans hx)
    exact ⟨hturned, rfl, hsum, hev, hother⟩
  · cases hev.symm.trans hx

end Formula

end FixedDecimal

import FixedDecimal.Proofs.Calculator.Reachable

/-! Chains that are handed over as a whole. A chain builds what its calls would have built one after
another, and it is refused with the error of the first of them; nothing else can come of a chain. -/
namespace FixedDecimal.Calculator

inductive Extension where
  | add (x : Decimal)
  | subtractBy (x : Decimal)
  | multiplyBy (x : Decimal)

namespace Extension

def step : Extension → Step
  | .add x => ⟨.add, x⟩
  | .subtractBy x => ⟨.sub, x⟩
  | .multiplyBy x => ⟨.mul, x⟩

theorem exists_step {s : Step} (h : s.operator ≠ .div) : ∃ op : Extension, op.step = s := by
  obtain ⟨operator, x⟩ := s
  cases operator with
  | add => exact ⟨.add x, rfl⟩
  | sub => exact ⟨.subtractBy x, rfl⟩
  | mul => exact ⟨.multiplyBy x, rfl⟩
  | div => exact absurd rfl h

theorem exists_steps {steps : List Step} (h : ∀ s ∈ steps, s.operator ≠ .div) :
    ∃ ops : List Extension, ops.map step = steps := by
  induction steps with
  | nil => exact ⟨[], rfl⟩
  | cons s rest ih =>
    obtain ⟨op, hop⟩ := exists_step (h s List.mem_cons_self)
    obtain ⟨ops, hops⟩ := ih fun t ht => h t (List.mem_cons_of_mem s ht)
    exact ⟨op :: ops, by rw [List.map_cons, hop, hops]⟩

end Extension

def extendBy (c : Calculator) : Extension → Calculator
  | .add x => c.add x
  | .subtractBy x => c.subtractBy x
  | .multiplyBy x => c.multiplyBy x

def extend (c : Calculator) (ops : List Extension) : Calculator := ops.foldl extendBy c

theorem extendBy_eq_append (c : Calculator) (op : Extension) :
    c.extendBy op = c.append op.step.operator op.step.operand := by
  cases op <;> rfl

theorem extend_eq_appendAll (c : Calculator) (ops : List Extension) :
    c.extend ops = c.appendAll (ops.map Extension.step) := by
  induction ops generalizing c with
  | nil => rfl
  | cons op ops ih =>
    rw [extend, List.foldl_cons, extendBy_eq_append]
    exact ih _

theorem extend_first (v : Decimal) (ops : List Extension) :
    (first v).extend ops = ⟨⟨some v, ops.map Extension.step⟩, none⟩ := by
  rw [extend_eq_appendAll, first, appendAll_numerator]
  rfl

theorem extend_denominator (f : Formula) (v : Decimal) (ops : List Extension) :
    (⟨f, some (.seeded v)⟩ : Calculator).extend ops =
      ⟨f, some ⟨some v, ops.map Extension.step⟩⟩ := by
  rw [extend_eq_appendAll, appendAll_denominator]
  rfl

def chain (v : Decimal) (ops : List Extension) (c : Calculator) : Except Error Calculator := do
  return (← c.value v).extend ops

theorem chain_empty (v : Decimal) (ops : List Extension) :
    chain v ops empty = .ok ((first v).extend ops) := rfl

theorem asFormula_extend_first (v : Decimal) (ops : List Extension) (slot : Slot) :
    ((first v).extend ops).asFormula slot = .ok ⟨some v, ops.map Extension.step⟩ := by
  rw [extend_first]
  rfl

theorem inNumerator_chain (v : Decimal) (ops : List Extension) :
    inNumerator (chain v ops) = .ok ((first v).extend ops) := by
  rw [inNumerator, chain_empty, ok_bind, asFormula_extend_first, extend_first]
  rfl

theorem inDenominator_chain (c : Calculator) (v : Decimal) (ops : List Extension) :
    c.inDenominator (chain v ops) = (c.divideBy v).map (·.extend ops) := by
  rw [inDenominator, divideBy]
  cases hc : c.checkDenominatorAllowed with
  | error e => rfl
  | ok u =>
    simp only [ok_bind, chain_empty, asFormula_extend_first]
    exact congrArg Except.ok (extend_denominator c.numerator v ops).symm

/-- Whatever built it, a calculator with a first value in its numerator has a chain there. -/
theorem Reachable.numerator_eq_chain {c : Calculator} (h : Reachable c)
    (hs : c.numerator.seed.isSome) :
    ∃ v, ∃ ops : List Extension, c.numerator = ⟨some v, ops.map Extension.step⟩ := by
  obtain ⟨⟨seed, steps⟩, d⟩ := c
  obtain ⟨v, rfl⟩ := Option.isSome_iff_exists.mp hs
  obtain ⟨ops, rfl⟩ :=
    Extension.exists_steps (Formula.hasDivision_eq_false.mp h.wellFormed.numerator_undivided)
  exact ⟨v, ops, rfl⟩

theorem exists_divideBy_of_inDenominator {c next : Calculator}
    {build : Calculator → Except Error Calculator}
    (chains : ∀ chain, build empty = .ok chain → Reachable chain)
    (h : c.inDenominator build = .ok next) :
    ∃ v ops, (c.divideBy v).map (·.extend ops) = .ok next := by
  obtain ⟨hs, hd, chain, hb, -, hcs, rfl⟩ := inDenominator_eq_ok.mp h
  obtain ⟨v, ops, hchain⟩ := (chains chain hb).numerator_eq_chain hcs
  refine ⟨v, ops, ?_⟩
  rw [divideBy_eq_ok.mpr ⟨hs, hd, rfl⟩, hchain]
  exact congrArg Except.ok (extend_denominator c.numerator v ops)

/-- A chain and the calls it stands for come to the same, errors included; a calculator that may not
open a denominator refuses every chain before it is built. -/
theorem chains_match_calls (c : Calculator) :
    (∀ v ops, c.inDenominator (chain v ops) = (c.divideBy v).map (·.extend ops)) ∧
    (∀ v ops, inNumerator (chain v ops) = .ok ((first v).extend ops)) ∧
    (∀ build next, (∀ chain, build empty = .ok chain → Reachable chain) →
      c.inDenominator build = .ok next →
      ∃ v ops, (c.divideBy v).map (·.extend ops) = .ok next) ∧
    (c.numerator.seed = none →
      ∀ build, c.inDenominator build = .error .denominatorBeforeNumerator) ∧
    (c.numerator.seed ≠ none → c.denominator ≠ none →
      ∀ build, c.inDenominator build = .error .consecutiveDenominator) := by
  refine ⟨c.inDenominator_chain, inNumerator_chain,
    fun _ _ => exists_divideBy_of_inDenominator, inDenominator_of_no_seed, ?_⟩
  intro hs hd
  exact inDenominator_of_denominator (Option.isSome_iff_ne_none.mpr hs)
    (Option.isSome_iff_ne_none.mpr hd)

def threeHalves : List Extension := [.subtractBy ⟨1, 0⟩, .multiplyBy ⟨5, 1⟩]

theorem threeHalves_match_calls :
    (first ⟨105, 1⟩).inDenominator (chain ⟨4, 0⟩ threeHalves) =
      ((first ⟨105, 1⟩).divideBy ⟨4, 0⟩).map (·.extend threeHalves) ∧
    inNumerator (chain ⟨4, 0⟩ threeHalves) = .ok ((first ⟨4, 0⟩).extend threeHalves) ∧
    (∃ v ops, ((first ⟨105, 1⟩).divideBy v).map (·.extend ops) =
      .ok ⟨.seeded ⟨105, 1⟩, some ⟨some ⟨4, 0⟩, threeHalves.map Extension.step⟩⟩) ∧
    (empty.add ⟨1, 0⟩).inDenominator (fun _ => .error .divisionByZero) =
      .error .denominatorBeforeNumerator ∧
    nestedChains.inDenominator (fun _ => .error .divisionByZero) =
      .error .consecutiveDenominator := by
  obtain ⟨hdenominator, hnumerator, hback, -⟩ := chains_match_calls (first ⟨105, 1⟩)
  obtain ⟨-, -, -, hseedless, -⟩ := chains_match_calls (empty.add ⟨1, 0⟩)
  obtain ⟨-, -, -, -, hopen⟩ := chains_match_calls nestedChains
  have hreachable : Reachable ⟨⟨some ⟨4, 0⟩, threeHalves.map Extension.step⟩, none⟩ :=
    reachable_iff_wellFormed.mpr (wellFormed_of_numerator rfl)
  refine ⟨hdenominator _ _, hnumerator _ _, ?_, hseedless rfl _, hopen nofun nofun _⟩
  refine hback (fun _ => inNumerator (chain ⟨4, 0⟩ threeHalves)) _ ?_ rfl
  intro chain hchain
  cases hchain
  exact hreachable

end FixedDecimal.Calculator

import FixedDecimal.Calculator

/-! The calculators that can be built. No formula of theirs divides, and once a denominator is
open both formulas have a first value; the numerator is then left alone for good. -/
namespace FixedDecimal

namespace Formula

theorem hasDivision_seeded (x : Decimal) : (seeded x).hasDivision = false := rfl

theorem hasDivision_push (f : Formula) {operator : Operator} (h : operator ≠ .div) (x : Decimal) :
    (f.push operator x).hasDivision = f.hasDivision := by
  simp [hasDivision, push, h]

theorem withSeed_eq_ok {f g : Formula} {x : Decimal} :
    f.withSeed x = .ok g ↔ f.isEmpty = true ∧ g = seeded x := by
  cases h : f.isEmpty <;> simp [withSeed, h, eq_comm]

theorem withSeed_of_seed {f : Formula} (h : f.seed.isSome) (x : Decimal) :
    f.withSeed x = .error .formulaAlreadyPopulated := by
  cases hs : f.seed with
  | none => simp [hs] at h
  | some y => simp [withSeed, isEmpty, hs]

end Formula

namespace Calculator

inductive Call where
  | value (x : Decimal)
  | add (x : Decimal)
  | subtractBy (x : Decimal)
  | multiplyBy (x : Decimal)
  | divideBy (x : Decimal)
  | inDenominator (build : Calculator → Except Error Calculator)

def call (c : Calculator) : Call → Except Error Calculator
  | .value x => c.value x
  | .add x => .ok (c.add x)
  | .subtractBy x => .ok (c.subtractBy x)
  | .multiplyBy x => .ok (c.multiplyBy x)
  | .divideBy x => c.divideBy x
  | .inDenominator build => c.inDenominator build

def run (c : Calculator) (calls : List Call) : Except Error Calculator := calls.foldlM call c

/-- What some program of calls builds. Whatever a chain is built by, only its result counts, and
that has to be the result of such a program again. -/
inductive Reachable : Calculator → Prop where
  | empty : Reachable empty
  | first (x : Decimal) : Reachable (first x)
  | inNumerator {build : Calculator → Except Error Calculator} {c : Calculator}
      (chains : ∀ chain, build empty = .ok chain → Reachable chain)
      (h : inNumerator build = .ok c) : Reachable c
  | call {c next : Calculator} {k : Call} (hc : Reachable c)
      (chains : ∀ build chain, k = .inDenominator build → build empty = .ok chain → Reachable chain)
      (h : c.call k = .ok next) : Reachable next

/-! ## What each call does -/

theorem checkDenominatorAllowed_eq_ok {c : Calculator} {u : Unit} :
    c.checkDenominatorAllowed = .ok u ↔ c.numerator.seed.isSome ∧ c.denominator = none := by
  cases hs : c.numerator.seed <;> cases hd : c.denominator <;>
    simp [checkDenominatorAllowed, hs, hd]

theorem checkDenominatorAllowed_of_denominator {c : Calculator} (hs : c.numerator.seed.isSome)
    (hd : c.denominator.isSome) : c.checkDenominatorAllowed = .error .consecutiveDenominator := by
  simp [checkDenominatorAllowed, hd, Option.isNone_eq_false_iff.mpr hs]

theorem checkDenominatorAllowed_of_no_seed {c : Calculator} (hs : c.numerator.seed = none) :
    c.checkDenominatorAllowed = .error .denominatorBeforeNumerator := by
  simp [checkDenominatorAllowed, hs]

theorem asFormula_eq_ok {chain : Calculator} {slot : Slot} {f : Formula} :
    chain.asFormula slot = .ok f ↔
      chain.denominator = none ∧ chain.numerator.seed.isSome ∧ f = chain.numerator := by
  cases hs : chain.numerator.seed <;> cases hd : chain.denominator <;>
    simp [asFormula, hs, hd, eq_comm]

theorem inNumerator_eq_ok {build : Calculator → Except Error Calculator} {c : Calculator} :
    inNumerator build = .ok c ↔ ∃ chain, build empty = .ok chain ∧ chain.denominator = none ∧
      chain.numerator.seed.isSome ∧ c = ⟨chain.numerator, none⟩ := by
  simp only [inNumerator, bind_eq_ok, asFormula_eq_ok]
  constructor
  · intro h
    obtain ⟨chain, hb, f, ⟨hd, hs, rfl⟩, ⟨⟩⟩ := h
    exact ⟨chain, hb, hd, hs, rfl⟩
  · intro h
    obtain ⟨chain, hb, hd, hs, rfl⟩ := h
    exact ⟨chain, hb, _, ⟨hd, hs, rfl⟩, rfl⟩

theorem divideBy_eq_ok {c next : Calculator} {x : Decimal} :
    c.divideBy x = .ok next ↔ c.numerator.seed.isSome ∧ c.denominator = none ∧
      next = ⟨c.numerator, some (.seeded x)⟩ := by
  simp only [divideBy, bind_eq_ok, checkDenominatorAllowed_eq_ok]
  constructor
  · intro h
    obtain ⟨-, ⟨hs, hd⟩, ⟨⟩⟩ := h
    exact ⟨hs, hd, rfl⟩
  · intro h
    obtain ⟨hs, hd, rfl⟩ := h
    exact ⟨(), ⟨hs, hd⟩, rfl⟩

theorem inDenominator_eq_ok {c next : Calculator} {build : Calculator → Except Error Calculator} :
    c.inDenominator build = .ok next ↔ c.numerator.seed.isSome ∧ c.denominator = none ∧
      ∃ chain, build empty = .ok chain ∧ chain.denominator = none ∧
        chain.numerator.seed.isSome ∧ next = ⟨c.numerator, some chain.numerator⟩ := by
  simp only [inDenominator, bind_eq_ok, checkDenominatorAllowed_eq_ok, asFormula_eq_ok]
  constructor
  · intro h
    obtain ⟨-, ⟨hs, hd⟩, chain, hb, f, ⟨hcd, hcs, rfl⟩, ⟨⟩⟩ := h
    exact ⟨hs, hd, chain, hb, hcd, hcs, rfl⟩
  · intro h
    obtain ⟨hs, hd, chain, hb, hcd, hcs, rfl⟩ := h
    exact ⟨(), ⟨hs, hd⟩, chain, hb, _, ⟨hcd, hcs, rfl⟩, rfl⟩

theorem value_eq_ok {c next : Calculator} {x : Decimal} :
    c.value x = .ok next ↔
      (c.denominator = none ∧ c.numerator.isEmpty = true ∧ next = first x) ∨
      ∃ d, c.denominator = some d ∧ d.isEmpty = true ∧
        next = ⟨c.numerator, some (.seeded x)⟩ := by
  cases hd : c.denominator with
  | none =>
    simp only [value, hd, bind_eq_ok, Formula.withSeed_eq_ok]
    constructor
    · intro h
      obtain ⟨f, ⟨he, rfl⟩, ⟨⟩⟩ := h
      exact .inl ⟨trivial, he, rfl⟩
    · intro h
      obtain ⟨-, he, rfl⟩ | ⟨d, ⟨⟩, -⟩ := h
      exact ⟨_, ⟨he, rfl⟩, rfl⟩
  | some d =>
    simp only [value, hd, bind_eq_ok, Formula.withSeed_eq_ok]
    constructor
    · intro h
      obtain ⟨f, ⟨he, rfl⟩, ⟨⟩⟩ := h
      exact .inr ⟨d, rfl, he, rfl⟩
    · intro h
      obtain ⟨⟨⟩, -⟩ | ⟨d', hd', he, rfl⟩ := h
      cases hd'
      exact ⟨_, ⟨he, rfl⟩, rfl⟩

theorem divideBy_of_no_seed {c : Calculator} (hs : c.numerator.seed = none) (x : Decimal) :
    c.divideBy x = .error .denominatorBeforeNumerator := by
  rw [divideBy, checkDenominatorAllowed_of_no_seed hs]
  rfl

theorem inDenominator_of_no_seed {c : Calculator} (hs : c.numerator.seed = none)
    (build : Calculator → Except Error Calculator) :
    c.inDenominator build = .error .denominatorBeforeNumerator := by
  rw [inDenominator, checkDenominatorAllowed_of_no_seed hs]
  rfl

/-! ## Steps one after another -/

def appendAll (c : Calculator) (steps : List Step) : Calculator :=
  steps.foldl (fun c step => c.append step.operator step.operand) c

/-- Every step goes to the formula that is open; `place` puts it in its calculator. -/
theorem appendAll_place (place : Formula → Calculator)
    (hplace : ∀ f operator x, (place f).append operator x = place (f.push operator x))
    (f : Formula) (steps : List Step) :
    (place f).appendAll steps = place ⟨f.seed, f.steps ++ steps⟩ := by
  induction steps generalizing f with
  | nil =>
    rw [List.append_nil]
    rfl
  | cons step rest ih =>
    rw [appendAll, List.foldl_cons, hplace, List.append_cons]
    exact ih (f.push step.operator step.operand)

theorem appendAll_numerator (f : Formula) (steps : List Step) :
    (⟨f, none⟩ : Calculator).appendAll steps = ⟨⟨f.seed, f.steps ++ steps⟩, none⟩ :=
  appendAll_place (⟨·, none⟩) (fun _ _ _ => rfl) f steps

theorem appendAll_denominator (f d : Formula) (steps : List Step) :
    (⟨f, some d⟩ : Calculator).appendAll steps = ⟨f, some ⟨d.seed, d.steps ++ steps⟩⟩ :=
  appendAll_place (fun d => ⟨f, some d⟩) (fun _ _ _ => rfl) d steps

/-! ## The invariant -/

structure WellFormed (c : Calculator) : Prop where
  numerator_undivided : c.numerator.hasDivision = false
  denominator_undivided : ∀ d ∈ c.denominator, d.hasDivision = false
  seeded : ∀ d ∈ c.denominator, c.numerator.seed.isSome ∧ d.seed.isSome

/-- A calculator without a denominator has only its numerator to answer for. -/
theorem wellFormed_of_numerator {f : Formula} (h : f.hasDivision = false) :
    WellFormed ⟨f, none⟩ :=
  ⟨h, fun _ hd => absurd hd (Option.not_mem_none _), fun _ hd => absurd hd (Option.not_mem_none _)⟩

theorem wellFormed_of_formulas {f d : Formula} (hf : f.hasDivision = false)
    (hd : d.hasDivision = false) (hfs : f.seed.isSome) (hds : d.seed.isSome) :
    WellFormed ⟨f, some d⟩ := by
  refine ⟨hf, ?_, ?_⟩
  · intro e he
    cases he
    exact hd
  · intro e he
    cases he
    exact ⟨hfs, hds⟩

theorem WellFormed.append {c : Calculator} (h : c.WellFormed) {operator : Operator}
    (ho : operator ≠ .div) (x : Decimal) : (c.append operator x).WellFormed := by
  obtain ⟨f, d⟩ := c
  cases d with
  | none => exact wellFormed_of_numerator ((f.hasDivision_push ho x).trans h.numerator_undivided)
  | some d =>
    have hs := h.seeded d rfl
    exact wellFormed_of_formulas h.numerator_undivided
      ((d.hasDivision_push ho x).trans (h.denominator_undivided d rfl)) hs.1 hs.2

theorem WellFormed.call {c next : Calculator} {k : Call} (h : c.WellFormed)
    (chains : ∀ build chain, k = .inDenominator build → build Calculator.empty = .ok chain →
      chain.WellFormed) (hk : c.call k = .ok next) : next.WellFormed := by
  cases k with
  | value x =>
    rcases value_eq_ok.mp hk with ⟨-, -, rfl⟩ | ⟨d, hd, -, rfl⟩
    · exact wellFormed_of_numerator (Formula.hasDivision_seeded x)
    · exact wellFormed_of_formulas h.numerator_undivided (Formula.hasDivision_seeded x)
        (h.seeded d hd).1 rfl
  | add x => cases hk; exact h.append (by decide) x
  | subtractBy x => cases hk; exact h.append (by decide) x
  | multiplyBy x => cases hk; exact h.append (by decide) x
  | divideBy x =>
    obtain ⟨hs, -, rfl⟩ := divideBy_eq_ok.mp hk
    exact wellFormed_of_formulas h.numerator_undivided (Formula.hasDivision_seeded x) hs rfl
  | inDenominator build =>
    obtain ⟨hs, -, chain, hb, -, hcs, rfl⟩ := inDenominator_eq_ok.mp hk
    have hchain := (chains build chain rfl hb).numerator_undivided
    exact wellFormed_of_formulas h.numerator_undivided hchain hs hcs

theorem Reachable.wellFormed {c : Calculator} (h : Reachable c) : c.WellFormed := by
  induction h with
  | empty => exact wellFormed_of_numerator rfl
  | first x => exact wellFormed_of_numerator (Formula.hasDivision_seeded x)
  | inNumerator chains h ih =>
    obtain ⟨chain, hb, -, -, rfl⟩ := inNumerator_eq_ok.mp h
    exact wellFormed_of_numerator (ih chain hb).numerator_undivided
  | call hc chains h ih ihchains => exact ih.call ihchains h

/-! ## The invariant is exact: whatever is well formed can be built -/

/-- A call that is handed no chain. -/
theorem Reachable.plain {c next : Calculator} {k : Call} (hc : Reachable c)
    (h : c.call k = .ok next) (hk : ∀ build, k ≠ .inDenominator build) : Reachable next :=
  .call hc (fun build _ hb => absurd hb (hk build)) h

theorem Reachable.append {c : Calculator} (h : Reachable c) {operator : Operator}
    (ho : operator ≠ .div) (x : Decimal) : Reachable (c.append operator x) := by
  cases operator with
  | add => exact h.plain (rfl : c.call (.add x) = _) nofun
  | sub => exact h.plain (rfl : c.call (.subtractBy x) = _) nofun
  | mul => exact h.plain (rfl : c.call (.multiplyBy x) = _) nofun
  | div => exact absurd rfl ho

theorem Reachable.appendAll {c : Calculator} {steps : List Step} (h : Reachable c)
    (hsteps : ∀ step ∈ steps, step.operator ≠ .div) : Reachable (c.appendAll steps) := by
  induction steps generalizing c with
  | nil => exact h
  | cons step rest ih =>
    exact ih (h.append (hsteps step List.mem_cons_self) step.operand)
      fun t ht => hsteps t (List.mem_cons_of_mem step ht)

theorem reachable_iff_wellFormed {c : Calculator} : Reachable c ↔ c.WellFormed := by
  refine ⟨Reachable.wellFormed, fun h => ?_⟩
  obtain ⟨⟨seed, steps⟩, d⟩ := c
  have hsteps := Formula.hasDivision_eq_false.mp h.numerator_undivided
  have hnumerator : Reachable ⟨⟨seed, steps⟩, none⟩ := by
    have hstart : Reachable ⟨⟨seed, []⟩, none⟩ := by
      cases seed with
      | none => exact .empty
      | some x => exact .first x
    rw [← List.nil_append steps, ← appendAll_numerator ⟨seed, []⟩]
    exact hstart.appendAll hsteps
  cases d with
  | none => exact hnumerator
  | some d =>
    obtain ⟨hs, hds⟩ := h.seeded d rfl
    obtain ⟨x, hx⟩ := Option.isSome_iff_exists.mp hds
    have hopen : (⟨⟨seed, steps⟩, none⟩ : Calculator).call (.divideBy x) =
        .ok ⟨⟨seed, steps⟩, some ⟨some x, []⟩⟩ := divideBy_eq_ok.mpr ⟨hs, rfl, rfl⟩
    have hd := Formula.hasDivision_eq_false.mp (h.denominator_undivided d rfl)
    have hstart := hnumerator.plain hopen nofun
    rw [← hx] at hstart
    have hall := hstart.appendAll hd
    rwa [appendAll_denominator] at hall

/-! ## A denominator that is open -/

theorem value_of_denominator {c : Calculator} {d : Formula} (hd : c.denominator = some d)
    (hds : d.seed.isSome) (x : Decimal) : c.value x = .error .formulaAlreadyPopulated := by
  simp only [value, hd, Formula.withSeed_of_seed hds]
  rfl

theorem divideBy_of_denominator {c : Calculator} (hs : c.numerator.seed.isSome)
    (hd : c.denominator.isSome) (x : Decimal) :
    c.divideBy x = .error .consecutiveDenominator := by
  rw [divideBy, checkDenominatorAllowed_of_denominator hs hd]
  rfl

theorem inDenominator_of_denominator {c : Calculator} (hs : c.numerator.seed.isSome)
    (hd : c.denominator.isSome) (build : Calculator → Except Error Calculator) :
    c.inDenominator build = .error .consecutiveDenominator := by
  rw [inDenominator, checkDenominatorAllowed_of_denominator hs hd]
  rfl

/-- A call that succeeds adds one step to the denominator and does nothing else. -/
theorem call_of_denominator {c next : Calculator} {d : Formula} (hs : c.numerator.seed.isSome)
    (hd : c.denominator = some d) (hds : d.seed.isSome) {k : Call} (hk : c.call k = .ok next) :
    ∃ step, next = ⟨c.numerator, some ⟨d.seed, d.steps ++ [step]⟩⟩ := by
  have hopen : c.denominator.isSome := by rw [hd]; rfl
  cases k with
  | value x => rw [call, value_of_denominator hd hds] at hk; cases hk
  | add x => cases hk; exact ⟨⟨.add, x⟩, by rw [add, append, hd]; rfl⟩
  | subtractBy x => cases hk; exact ⟨⟨.sub, x⟩, by rw [subtractBy, append, hd]; rfl⟩
  | multiplyBy x => cases hk; exact ⟨⟨.mul, x⟩, by rw [multiplyBy, append, hd]; rfl⟩
  | divideBy x => rw [call, divideBy_of_denominator hs hopen] at hk; cases hk
  | inDenominator build => rw [call, inDenominator_of_denominator hs hopen] at hk; cases hk

theorem run_of_denominator {c last : Calculator} {d : Formula} {calls : List Call}
    (hs : c.numerator.seed.isSome) (hd : c.denominator = some d) (hds : d.seed.isSome)
    (h : c.run calls = .ok last) :
    ∃ steps, last = ⟨c.numerator, some ⟨d.seed, d.steps ++ steps⟩⟩ := by
  induction calls generalizing c d with
  | nil =>
    obtain ⟨f, _⟩ := c
    cases hd
    cases h
    exact ⟨[], by rw [List.append_nil]⟩
  | cons k rest ih =>
    rw [run, List.foldlM_cons, bind_eq_ok] at h
    obtain ⟨next, hk, hrest⟩ := h
    obtain ⟨step, rfl⟩ := call_of_denominator hs hd hds hk
    obtain ⟨steps, rfl⟩ :=
      ih (c := ⟨c.numerator, some ⟨d.seed, d.steps ++ [step]⟩⟩) hs rfl hds hrest
    exact ⟨step :: steps, by rw [List.append_assoc]; rfl⟩

/-- What holds of every calculator that can be built, and what can still be done to it. -/
theorem Reachable.invariant {c : Calculator} (h : Reachable c) :
    (∀ step ∈ c.numerator.steps, step.operator ≠ .div) ∧
    (∀ d ∈ c.denominator, ∀ step ∈ d.steps, step.operator ≠ .div) ∧
    (∀ d ∈ c.denominator, c.numerator.seed.isSome ∧ d.seed.isSome) ∧
    ∀ d ∈ c.denominator,
      (∀ calls last, c.run calls = .ok last →
        last.numerator = c.numerator ∧
        ∃ steps, last.denominator = some ⟨d.seed, d.steps ++ steps⟩) ∧
      (∀ x, c.value x = .error .formulaAlreadyPopulated) ∧
      (∀ x, c.divideBy x = .error .consecutiveDenominator) ∧
      (∀ build, c.inDenominator build = .error .consecutiveDenominator) := by
  have hw := h.wellFormed
  refine ⟨Formula.hasDivision_eq_false.mp hw.numerator_undivided,
    fun d hd => Formula.hasDivision_eq_false.mp (hw.denominator_undivided d hd), hw.seeded, ?_⟩
  intro d hd
  obtain ⟨hs, hds⟩ := hw.seeded d hd
  have hopen : c.denominator.isSome := Option.isSome_of_mem hd
  refine ⟨?_, value_of_denominator hd hds, divideBy_of_denominator hs hopen,
    inDenominator_of_denominator hs hopen⟩
  intro calls last hrun
  obtain ⟨steps, rfl⟩ := run_of_denominator hs hd hds hrun
  exact ⟨rfl, steps, rfl⟩

/-- The chain `10.5 * -0.25` over the chain `4 - 1`, which is then multiplied by `0.35`. -/
def nestedChains : Calculator :=
  ⟨⟨some ⟨105, 1⟩, [⟨.mul, ⟨-25, 2⟩⟩]⟩, some ⟨some ⟨4, 0⟩, [⟨.sub, ⟨1, 0⟩⟩, ⟨.mul, ⟨35, 2⟩⟩]⟩⟩

theorem nestedChains_reachable : Reachable nestedChains := by
  have hupper : Reachable ⟨⟨some ⟨105, 1⟩, [⟨.mul, ⟨-25, 2⟩⟩]⟩, none⟩ := by
    refine .inNumerator ?_
      (rfl : inNumerator (fun c => do return (← c.value ⟨105, 1⟩).multiplyBy ⟨-25, 2⟩) = _)
    intro chain hchain
    cases hchain
    exact Reachable.append (.first ⟨105, 1⟩) (by decide : Operator.mul ≠ .div) ⟨-25, 2⟩
  have hopen : Reachable
      ⟨⟨some ⟨105, 1⟩, [⟨.mul, ⟨-25, 2⟩⟩]⟩, some ⟨some ⟨4, 0⟩, [⟨.sub, ⟨1, 0⟩⟩]⟩⟩ := by
    refine hupper.call (k := .inDenominator fun c => do
      return (← c.value ⟨4, 0⟩).subtractBy ⟨1, 0⟩) ?_ rfl
    intro build chain hbuild hchain
    cases hbuild
    cases hchain
    exact Reachable.append (.first ⟨4, 0⟩) (by decide : Operator.sub ≠ .div) ⟨1, 0⟩
  exact hopen.append (by decide : Operator.mul ≠ .div) ⟨35, 2⟩

theorem nestedChains_invariant :
    Reachable nestedChains ∧
    nestedChains.numerator.seed.isSome ∧
    (∀ step ∈ nestedChains.numerator.steps, step.operator ≠ .div) ∧
    (nestedChains.run [.subtractBy ⟨7, 1⟩, .add ⟨-2, 0⟩]).map numerator =
      .ok nestedChains.numerator ∧
    nestedChains.value ⟨7, 1⟩ = .error .formulaAlreadyPopulated ∧
    nestedChains.divideBy ⟨7, 1⟩ = .error .consecutiveDenominator ∧
    nestedChains.inDenominator (fun c => c.value ⟨7, 1⟩) = .error .consecutiveDenominator := by
  obtain ⟨hnumerator, -, hseeds, hopen⟩ := nestedChains_reachable.invariant
  obtain ⟨hrun, hvalue, hdivide, hchain⟩ := hopen _ rfl
  refine ⟨nestedChains_reachable, (hseeds _ rfl).1, hnumerator, ?_, hvalue _, hdivide _, hchain _⟩
  have hlast := hrun [.subtractBy ⟨7, 1⟩, .add ⟨-2, 0⟩] _ rfl
  exact congrArg Except.ok hlast.1

end Calculator

end FixedDecimal

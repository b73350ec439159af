import FixedDecimal.Proofs.Formula.Outcome

/-! The powers of ten that a formula is evaluated with. A trace of the evaluation keeps the exponent
of every power asked for; small precisions keep all of them in range, and then a formula fails only
for want of a first value or at a zero divisor. -/
namespace FixedDecimal

/-- A result with the exponents of the powers of ten that were asked for on the way to it. -/
structure Traced (α : Type) where
  powers : List ℤ
  outcome : Except Error α

namespace Traced
variable {α β : Type}

def ofExcept (x : Except Error α) : Traced α := ⟨[], x⟩

/-- The powers of a failed computation stay on record. -/
def bind (x : Traced α) (f : α → Traced β) : Traced β :=
  match x.outcome with
  | .ok a => ⟨x.powers ++ (f a).powers, (f a).outcome⟩
  | .error e => ⟨x.powers, .error e⟩

instance : Monad Traced where
  pure a := .ofExcept (.ok a)
  bind := bind

theorem outcome_bind (x : Traced α) (f : α → Traced β) :
    (x >>= f).outcome = x.outcome >>= fun a => (f a).outcome := by
  obtain ⟨powers, outcome⟩ := x
  cases outcome <;> rfl

def InRange (x : Traced α) : Prop := ∀ e ∈ x.powers, 0 ≤ e ∧ e < 2 ^ 32

theorem inRange_ofExcept (x : Except Error α) : (ofExcept x).InRange := by
  intro e he
  cases he

theorem InRange.bind {x : Traced α} {f : α → Traced β} (hx : x.InRange)
    (hf : ∀ a, x.outcome = .ok a → (f a).InRange) : (x >>= f).InRange := by
  obtain ⟨powers, outcome⟩ := x
  cases outcome with
  | error e => exact hx
  | ok a =>
    intro e he
    obtain he | he := List.mem_append.mp he
    · exact hx e he
    · exact hf a rfl e he

end Traced

namespace Running
variable {acc next last : Running} {step : Step} {steps : List Step}

/-! ## The machine with its trace -/

def traceRaise (magnitude exponent : ℤ) : Traced ℤ :=
  ⟨if exponent = 0 ∨ magnitude = 0 then [] else [exponent], raise magnitude exponent⟩

def traceApply (acc : Running) (step : Step) : Traced Running :=
  let value := ofDecimal step.operand
  let exponent := max acc.exponent value.exponent
  match step.operator with
  | .add => do
    let left ← traceRaise acc.magnitude (exponent - acc.exponent)
    let right ← traceRaise value.magnitude (exponent - value.exponent)
    return ⟨left + right, exponent⟩
  | .sub => do
    let left ← traceRaise acc.magnitude (exponent - acc.exponent)
    let right ← traceRaise value.magnitude (exponent - value.exponent)
    return ⟨left - right, exponent⟩
  | .mul | .div => .ofExcept (acc.apply step)

def traceFinish (acc : Running) : Traced Decimal :=
  if acc.exponent < 0 then do
    let magnitude ← traceRaise acc.magnitude (-acc.exponent)
    return ⟨magnitude, 0⟩
  else .ofExcept acc.finish

theorem outcome_traceApply (acc : Running) (step : Step) :
    (acc.traceApply step).outcome = acc.apply step := by
  cases ho : step.operator with
  | add | sub =>
    simp only [traceApply, apply, ho, Traced.outcome_bind]
    rfl
  | mul | div => simp only [traceApply, ho, Traced.ofExcept]

theorem outcome_foldlM (steps : List Step) (acc : Running) :
    (steps.foldlM traceApply acc).outcome = steps.foldlM apply acc := by
  induction steps generalizing acc with
  | nil => rfl
  | cons step rest ih =>
    rw [List.foldlM_cons, List.foldlM_cons, Traced.outcome_bind, outcome_traceApply]
    exact congrArg _ (funext ih)

theorem outcome_traceFinish (acc : Running) : acc.traceFinish.outcome = acc.finish := by
  by_cases h : acc.exponent < 0
  · rw [traceFinish, finish, if_pos h, if_pos h, Traced.outcome_bind]
    rfl
  · rw [traceFinish, if_neg h]
    rfl

/-! ## The exponents along a run -/

theorem exponent_of_apply (h : acc.apply step = .ok next) :
    next.exponent = step.exponent acc.exponent := by
  cases ho : step.operator with
  | add | sub =>
    simp only [apply, ho, bind_eq_ok] at h
    obtain ⟨l, -, r, -, ⟨⟩⟩ := h
    simp only [Step.exponent, ho, ofDecimal]
  | mul =>
    simp only [apply, ho] at h
    cases h
    simp only [Step.exponent, ho, ofDecimal]
  | div =>
    simp only [apply, ho, bind_eq_ok] at h
    obtain ⟨q, -, ⟨⟩⟩ := h
    simp only [Step.exponent, ho, ofDecimal]

theorem exponent_of_foldlM (h : steps.foldlM apply acc = .ok last) :
    last.exponent = steps.foldl Step.exponent acc.exponent := by
  induction steps generalizing acc with
  | nil =>
    cases h
    rfl
  | cons step rest ih =>
    rw [List.foldlM_cons, bind_eq_ok] at h
    obtain ⟨next, hstep, hrest⟩ := h
    rw [List.foldl_cons, ← exponent_of_apply hstep, ih hrest]

theorem abs_exponent_of_foldlM (hfit : Fits acc.exponent steps)
    (h : steps.foldlM apply acc = .ok last) : |last.exponent| < 2 ^ 32 := by
  induction steps generalizing acc with
  | nil =>
    cases h
    exact hfit
  | cons step rest ih =>
    rw [List.foldlM_cons, bind_eq_ok] at h
    obtain ⟨next, hstep, hrest⟩ := h
    exact ih (by rw [exponent_of_apply hstep]; exact hfit.2) hrest

/-! ## No power leaves the range -/

theorem inRange_traceRaise (magnitude : ℤ) {exponent : ℤ} (h0 : 0 ≤ exponent)
    (h1 : exponent < 2 ^ 32) : (traceRaise magnitude exponent).InRange := by
  intro e he
  rw [traceRaise] at he
  split at he
  · cases he
  · obtain rfl := List.mem_singleton.mp he
    exact ⟨h0, h1⟩

theorem inRange_traceApply (hgap : |acc.exponent - step.operand.precision.toNat| < 2 ^ 32) :
    (acc.traceApply step).InRange := by
  have hbounds := abs_lt.mp hgap
  have hleft : (traceRaise acc.magnitude
      (max acc.exponent step.operand.precision.toNat - acc.exponent)).InRange :=
    inRange_traceRaise _ (by omega) (by omega)
  have hright : (traceRaise step.operand.magnitude
      (max acc.exponent step.operand.precision.toNat - step.operand.precision.toNat)).InRange :=
    inRange_traceRaise _ (by omega) (by omega)
  cases ho : step.operator with
  | add | sub =>
    simp only [traceApply, ho]
    exact hleft.bind fun _ _ => hright.bind fun _ _ => Traced.inRange_ofExcept _
  | mul | div =>
    simp only [traceApply, ho]
    exact Traced.inRange_ofExcept _

theorem inRange_foldlM (hfit : Fits acc.exponent steps) :
    (steps.foldlM traceApply acc).InRange := by
  induction steps generalizing acc with
  | nil => exact Traced.inRange_ofExcept _
  | cons step rest ih =>
    rw [List.foldlM_cons]
    refine (inRange_traceApply hfit.1).bind fun next hnext => ih ?_
    rw [outcome_traceApply] at hnext
    rw [exponent_of_apply hnext]
    exact hfit.2

theorem inRange_traceFinish (h : |acc.exponent| < 2 ^ 32) : acc.traceFinish.InRange := by
  rw [abs_lt] at h
  rw [traceFinish]
  split
  · exact (inRange_traceRaise _ (by omega) (by omega)).bind fun _ _ => Traced.inRange_ofExcept _
  · exact Traced.inRange_ofExcept _

end Running

namespace Formula

def trace (f : Formula) : Traced Decimal :=
  match f.seed with
  | none => .ofExcept (.error .emptyFormula)
  | some seed => do
    (← f.steps.foldlM Running.traceApply (Running.ofDecimal seed)).traceFinish

theorem outcome_trace (f : Formula) : f.trace.outcome = f.evaluate := by
  cases hs : f.seed with
  | none => rw [trace, evaluate, hs]; rfl
  | some seed =>
    simp only [trace, evaluate, hs, Traced.outcome_bind, Running.outcome_foldlM,
      Running.outcome_traceFinish]

theorem inRange_trace {f : Formula} (hsum : f.precisionSum < 2 ^ 32) : f.trace.InRange := by
  cases hs : f.seed with
  | none =>
    rw [trace, hs]
    exact Traced.inRange_ofExcept _
  | some seed =>
    have hfit : Running.Fits (Running.ofDecimal seed).exponent f.steps :=
      fits_of_precisionSum hs hsum
    simp only [trace, hs]
    refine (Running.inRange_foldlM hfit).bind fun last hlast => Running.inRange_traceFinish ?_
    rw [Running.outcome_foldlM] at hlast
    exact Running.abs_exponent_of_foldlM hfit hlast

theorem precision_le_precisionSum {f : Formula} {seed x : Decimal} (hseed : f.seed = some seed)
    (hsum : f.precisionSum < 2 ^ 32) (hx : f.evaluate = .ok x) :
    x.precision.toNat ≤ f.precisionSum := by
  obtain ⟨-, herror⟩ | ⟨-, y, hy, -, hp⟩ := evaluate_cases hseed hsum
  · cases hx.symm.trans herror
  · obtain rfl := Except.ok.inj (hx.symm.trans hy)
    have hrun : (Measured.run seed f.steps).exponent =
        f.steps.foldl Step.exponent seed.precision.toNat :=
      Measured.foldl_apply_exponent f.steps _
    have hle := le_abs_self (f.steps.foldl Step.exponent seed.precision.toNat)
    have habs := abs_foldl_exponent_le f.steps seed.precision.toNat
    rw [Nat.abs_cast] at habs
    rw [precisionSum_of_seed hseed]
    omega

/-- A formula whose precisions stay in range fails only for want of a first value or at a zero
divisor. -/
theorem evaluate_outcomes {f : Formula} (hsum : f.precisionSum < 2 ^ 32) :
    (f.evaluate = .error .emptyFormula ↔ f.seed = none) ∧
    (f.seed ≠ none →
      (f.evaluate = .error .divisionByZero ↔ ∃ step ∈ f.steps, step.DividesByZero) ∧
      ((¬∃ step ∈ f.steps, step.DividesByZero) → ∃ x, f.evaluate = .ok x)) ∧
    (∀ text, f.evaluate ≠ .error (.conversion text)) ∧
    (f.trace.outcome = f.evaluate ∧ ∀ e ∈ f.trace.powers, 0 ≤ e ∧ e < 2 ^ 32) ∧
    ∀ x, f.evaluate = .ok x → x.precision.toNat ≤ f.precisionSum := by
  have htrace : f.trace.outcome = f.evaluate ∧ ∀ e ∈ f.trace.powers, 0 ≤ e ∧ e < 2 ^ 32 :=
    ⟨outcome_trace f, inRange_trace hsum⟩
  cases hs : f.seed with
  | none =>
    have hempty := evaluate_of_no_seed hs
    refine ⟨by simp [hempty], fun h => absurd rfl h, ?_, htrace, ?_⟩
    · intro text h
      cases hempty.symm.trans h
    · intro x hx
      cases hempty.symm.trans hx
  | some seed =>
    have hprecision := fun x (hx : f.evaluate = .ok x) => precision_le_precisionSum hs hsum hx
    obtain ⟨hzero, herror⟩ | ⟨hzero, x, hx, -, -⟩ := evaluate_cases hs hsum
    · refine ⟨by simp [herror], fun _ => ⟨by simp [herror, hzero], fun h => absurd hzero h⟩, ?_,
        htrace, hprecision⟩
      intro text h
      cases herror.symm.trans h
    · refine ⟨by simp [hx], fun _ => ⟨by simp [hx, hzero], fun _ => ⟨x, hx⟩⟩, ?_, htrace,
        hprecision⟩
      intro text h
      cases hx.symm.trans h

def lateZero : Formula :=
  ⟨some ⟨50000, 0⟩, [⟨.div, ⟨25, 2⟩⟩, ⟨.add, ⟨1, 1⟩⟩, ⟨.div, ⟨0, 3⟩⟩]⟩

theorem lateZero_outcomes :
    lateZero.precisionSum < 2 ^ 32 ∧ sinking.precisionSum < 2 ^ 32 ∧
    lateZero.evaluate = .error .divisionByZero ∧ lateZero.trace.powers = [3] ∧
    (∀ e ∈ lateZero.trace.powers, 0 ≤ e ∧ e < 2 ^ 32) ∧
    Formula.evaluate ⟨none, lateZero.steps⟩ = .error .emptyFormula ∧
    sinking.trace.powers = [8] ∧
    ∃ x, sinking.evaluate = .ok x ∧ x.precision.toNat ≤ sinking.precisionSum := by
  have hlate : lateZero.precisionSum < 2 ^ 32 := by decide
  have hsinking : sinking.precisionSum < 2 ^ 32 := by decide
  obtain ⟨-, hseeded, -, ⟨-, hpowers⟩, -⟩ := evaluate_outcomes hlate
  obtain ⟨hempty, -⟩ := evaluate_outcomes (f := ⟨none, lateZero.steps⟩) (by decide)
  obtain ⟨-, hsunk, -, -, hprecision⟩ := evaluate_outcomes hsinking
  obtain ⟨x, hx⟩ := (hsunk (by decide)).2 (by decide)
  exact ⟨hlate, hsinking, (hseeded (by decide)).1.mpr (by decide), by decide, hpowers,
    hempty.mpr rfl, by decide, x, hx, hprecision x hx⟩

end Formula

end FixedDecimal

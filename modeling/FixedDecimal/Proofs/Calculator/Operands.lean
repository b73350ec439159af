import FixedDecimal.Proofs.Calculator.SingleRounding

/-! Calculations whose values are replaced one by one. Values that stay the same numbers and get no
more digits leave every result as it was. -/
namespace FixedDecimal

namespace Formula

def mapOperands (g : Decimal → Decimal) (f : Formula) : Formula :=
  ⟨f.seed.map g, f.steps.map fun step => ⟨step.operator, g step.operand⟩⟩

variable {g : Decimal → Decimal}

theorem hasDivision_mapOperands (g : Decimal → Decimal) (f : Formula) :
    (f.mapOperands g).hasDivision = f.hasDivision := by
  simp [hasDivision, mapOperands, Function.comp_def]

theorem mapOperands_id (f : Formula) : f.mapOperands id = f := by
  simp [mapOperands]

theorem exact_mapOperands (hvalue : ∀ x, (g x).value = x.value) (f : Formula) :
    (f.mapOperands g).exact = f.exact := by
  simp only [exact, mapOperands, Option.map_map, Function.comp_def, hvalue, List.foldl_map,
    Step.exact]
  rfl

theorem foldl_exponent_le {e e' : ℤ} {steps : List Step}
    (hprecision : ∀ x, (g x).precision ≤ x.precision)
    (h : ∀ step ∈ steps, step.operator ≠ .div) (he : e' ≤ e) :
    (steps.map fun step => ⟨step.operator, g step.operand⟩).foldl Step.exponent e' ≤
      steps.foldl Step.exponent e := by
  induction steps generalizing e e' with
  | nil => exact he
  | cons step rest ih =>
    have hp := UInt32.le_iff_toNat_le.mp (hprecision step.operand)
    refine ih (fun t ht => h t (List.mem_cons_of_mem step ht)) ?_
    cases ho : step.operator with
    | add => simp only [Step.exponent, ho]; omega
    | sub => simp only [Step.exponent, ho]; omega
    | mul => simp only [Step.exponent, ho]; omega
    | div => exact absurd ho (h step List.mem_cons_self)

theorem exponent_mapOperands_le (hprecision : ∀ x, (g x).precision ≤ x.precision) {f : Formula}
    (h : f.hasDivision = false) : (f.mapOperands g).exponent ≤ f.exponent := by
  refine foldl_exponent_le hprecision (hasDivision_eq_false.mp h) ?_
  cases hs : f.seed with
  | none => simp [mapOperands, hs]
  | some x => simpa [mapOperands, hs] using UInt32.le_iff_toNat_le.mp (hprecision x)

end Formula

namespace Calculator

def mapOperands (g : Decimal → Decimal) (c : Calculator) : Calculator :=
  ⟨c.numerator.mapOperands g, c.denominator.map (Formula.mapOperands g)⟩

variable {g : Decimal → Decimal} {c : Calculator}

theorem mapOperands_id (c : Calculator) : c.mapOperands id = c := by
  obtain ⟨f, d⟩ := c
  cases d <;> simp [mapOperands, Formula.mapOperands_id]

theorem WellFormed.mapOperands (g : Decimal → Decimal) (h : c.WellFormed) :
    (c.mapOperands g).WellFormed := by
  obtain ⟨f, d⟩ := c
  have hf := (f.hasDivision_mapOperands g).trans h.numerator_undivided
  cases d with
  | none => exact wellFormed_of_numerator hf
  | some d =>
    obtain ⟨hs, hds⟩ := h.seeded d rfl
    exact wellFormed_of_formulas hf
      ((d.hasDivision_mapOperands g).trans (h.denominator_undivided d rfl))
      (by simpa [Formula.mapOperands] using hs) (by simpa [Formula.mapOperands] using hds)

theorem SumsFit.mapOperands (hw : c.WellFormed)
    (hprecision : ∀ x, (g x).precision ≤ x.precision) {precision : Precision}
    (h : c.SumsFit precision) : (c.mapOperands g).SumsFit precision := by
  refine ⟨?_, ?_⟩
  · exact (Formula.exponent_mapOperands_le hprecision hw.numerator_undivided).trans_lt h.numerator
  · intro d' hd'
    obtain ⟨d, hd, rfl⟩ := Option.mem_map.mp hd'
    have hle := Formula.exponent_mapOperands_le hprecision (hw.denominator_undivided d hd)
    have hfit := h.denominator d hd
    omega

theorem calculateAt_mapOperands (hw : c.WellFormed) (hvalue : ∀ x, (g x).value = x.value)
    (hprecision : ∀ x, (g x).precision ≤ x.precision) {precision : Precision}
    (hfit : c.SumsFit precision) (mode : Rounding) :
    (c.mapOperands g).calculateAt precision mode = c.calculateAt precision mode := by
  have hdenominator : (c.mapOperands g).exactDenominator = c.exactDenominator := by
    simp only [exactDenominator, mapOperands, Option.map_map, Function.comp_def,
      Formula.exact_mapOperands hvalue]
  exact calculateAt_congr (hw.mapOperands g) hw (by simp [mapOperands, Formula.mapOperands])
    (Formula.exact_mapOperands hvalue c.numerator) hdenominator (hfit.mapOperands hw hprecision)
    hfit mode

end Calculator

end FixedDecimal

import FixedDecimal.Amount
import FixedDecimal.Formula

/-! Calculations of one formula, or of one formula over another. Once a denominator is open,
further steps extend it; a denominator is never opened twice and never before the numerator has a
value. -/
namespace FixedDecimal

structure Calculator where
  numerator : Formula
  denominator : Option Formula
deriving DecidableEq

namespace Calculator

def empty : Calculator := ⟨.empty, none⟩

def first (value : Decimal) : Calculator := ⟨.seeded value, none⟩

def value (c : Calculator) (x : Decimal) : Except Error Calculator :=
  match c.denominator with
  | some d => do return ⟨c.numerator, some (← d.withSeed x)⟩
  | none => do return ⟨← c.numerator.withSeed x, none⟩

def append (c : Calculator) (operator : Operator) (x : Decimal) : Calculator :=
  match c.denominator with
  | some d => ⟨c.numerator, some (d.push operator x)⟩
  | none => ⟨c.numerator.push operator x, none⟩

def add (c : Calculator) (x : Decimal) : Calculator := c.append .add x
def subtractBy (c : Calculator) (x : Decimal) : Calculator := c.append .sub x
def multiplyBy (c : Calculator) (x : Decimal) : Calculator := c.append .mul x

/-- A missing numerator is told before a second denominator. -/
def checkDenominatorAllowed (c : Calculator) : Except Error Unit :=
  if c.numerator.seed.isNone then .error .denominatorBeforeNumerator
  else if c.denominator.isSome then .error .consecutiveDenominator
  else .ok ()

def divideBy (c : Calculator) (x : Decimal) : Except Error Calculator := do
  c.checkDenominatorAllowed
  return ⟨c.numerator, some (.seeded x)⟩

def asFormula (chain : Calculator) (slot : Slot) : Except Error Formula :=
  if chain.denominator.isSome then .error (.nestedDenominator slot)
  else if chain.numerator.seed.isNone then .error .emptyFormula
  else .ok chain.numerator

/-- Opens the denominator with a whole chain, which is built only if a denominator may be
opened. -/
def inDenominator (c : Calculator) (build : Calculator → Except Error Calculator) :
    Except Error Calculator := do
  c.checkDenominatorAllowed
  let chain ← build empty
  return ⟨c.numerator, some (← chain.asFormula .denominator)⟩

def inNumerator (build : Calculator → Except Error Calculator) : Except Error Calculator := do
  let chain ← build empty
  return ⟨← chain.asFormula .numerator, none⟩

/-- The quotient of both formulas with a buffer of digits, cut off toward zero: the precision is
the sum of the two precisions. -/
def evaluate (c : Calculator) : Except Error Decimal := do
  let n ← c.numerator.evaluate
  match c.denominator with
  | none => return n
  | some formula =>
    let d ← formula.evaluate
    let magnitude ←
      Rounding.towardZero.quotient (n.magnitude * pow10 (d.precision * 2).toNat) d.magnitude
    return ⟨magnitude, n.precision + d.precision⟩

def calculateAt (c : Calculator) (precision : Precision) (mode : Rounding) :
    Except Error Decimal := do
  let n ← c.numerator.evaluate
  match c.denominator with
  | none => return n.rescaleWith precision mode
  | some formula =>
    let d ← formula.evaluate
    let dividend := n.magnitude * pow10 (d.precision + precision).toNat
    let divisor := d.magnitude * pow10 n.precision.toNat
    return ⟨← mode.quotient dividend divisor, precision⟩

def calculateAs (c : Calculator) (s : Schema) (mode : Rounding) : Except Error (Amount s) := do
  return ⟨(← c.calculateAt s.precision mode).magnitude⟩

def calculate (c : Calculator) : Except Error (Amount .unbranded) :=
  c.calculateAs .unbranded .towardZero

end Calculator

end FixedDecimal

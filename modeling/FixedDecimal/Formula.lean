import FixedDecimal.Decimal.Text
import FixedDecimal.Rounding.Quotient

/-! Formulas: a first value and steps that apply an operator with a value to what was reached so
far, strictly from left to right. -/
namespace FixedDecimal

inductive Operator where
  | add
  | sub
  | mul
  | div
deriving DecidableEq

namespace Operator

def all : List Operator := [.add, .sub, .mul, .div]

def name : Operator → String
  | .add => "add"
  | .sub => "sub"
  | .mul => "mul"
  | .div => "div"

def symbol : Operator → String
  | .add => "+"
  | .sub => "-"
  | .mul => "*"
  | .div => "/"

end Operator

structure Step where
  operator : Operator
  operand : Decimal
deriving DecidableEq

/-- A formula may have steps before it has a first value, but no value comes of it then. -/
structure Formula where
  seed : Option Decimal
  steps : List Step
deriving DecidableEq

/-- The number `magnitude / 10 ^ exponent` that a formula has reached; the exponent sinks below
zero when a division takes away more digits than there were. -/
structure Running where
  magnitude : Int
  exponent : Int
deriving DecidableEq

namespace Running

def outOfRange (exponent : Int) : Error :=
  .conversion s!"Decimal exponent {exponent} out of range"

/-- Multiplies a magnitude by a power of ten, whose exponent has to be a precision; zero needs no
power. -/
def raise (magnitude : Int) (exponent : Int) : Except Error Int :=
  if exponent = 0 ∨ magnitude = 0 then .ok magnitude
  else if 0 ≤ exponent ∧ exponent < UInt32.size then .ok (magnitude * pow10 exponent.toNat)
  else .error (outOfRange exponent)

def ofDecimal (x : Decimal) : Running := ⟨x.magnitude, x.precision.toNat⟩

/-- Adds after widening the coarser side; multiplies exactly and adds the exponents; divides the
magnitudes toward zero and subtracts the exponents. -/
def apply (acc : Running) (step : Step) : Except Error Running := do
  let value := ofDecimal step.operand
  match step.operator with
  | .add =>
    let exponent := max acc.exponent value.exponent
    let left ← raise acc.magnitude (exponent - acc.exponent)
    let right ← raise value.magnitude (exponent - value.exponent)
    return ⟨left + right, exponent⟩
  | .sub =>
    let exponent := max acc.exponent value.exponent
    let left ← raise acc.magnitude (exponent - acc.exponent)
    let right ← raise value.magnitude (exponent - value.exponent)
    return ⟨left - right, exponent⟩
  | .mul => return ⟨acc.magnitude * value.magnitude, acc.exponent + value.exponent⟩
  | .div =>
    let magnitude ← Rounding.towardZero.quotient acc.magnitude value.magnitude
    return ⟨magnitude, acc.exponent - value.exponent⟩

/-- The decimal reached; a negative exponent becomes zeros of the magnitude. -/
def finish (acc : Running) : Except Error Decimal :=
  if acc.exponent < 0 then do
    let magnitude ← raise acc.magnitude (-acc.exponent)
    return ⟨magnitude, 0⟩
  else if acc.exponent < UInt32.size then .ok ⟨acc.magnitude, UInt32.ofNat acc.exponent.toNat⟩
  else .error (outOfRange acc.exponent)

end Running

namespace Formula

def empty : Formula := ⟨none, []⟩

def seeded (value : Decimal) : Formula := ⟨some value, []⟩

def isEmpty (f : Formula) : Bool := f.seed.isNone && f.steps.isEmpty

def length (f : Formula) : Nat := f.seed.toList.length + f.steps.length

def hasDivision (f : Formula) : Bool := f.steps.any fun step => step.operator == .div

def withSeed (f : Formula) (value : Decimal) : Except Error Formula :=
  if f.isEmpty then .ok (seeded value) else .error .formulaAlreadyPopulated

def push (f : Formula) (operator : Operator) (operand : Decimal) : Formula :=
  { f with steps := f.steps ++ [⟨operator, operand⟩] }

def evaluate (f : Formula) : Except Error Decimal :=
  match f.seed with
  | none => .error .emptyFormula
  | some seed => do (← f.steps.foldlM Running.apply (Running.ofDecimal seed)).finish

/-- The values and operators in their order; an underscore stands for a missing first value. -/
def words (f : Formula) : List String :=
  (f.seed.map Decimal.text).getD "_" ::
    f.steps.flatMap fun step => [step.operator.symbol, step.operand.text]

def text (f : Formula) : String := " ".intercalate f.words

theorem hasDivision_eq_false {f : Formula} :
    f.hasDivision = false ↔ ∀ step ∈ f.steps, step.operator ≠ .div := by
  simp [hasDivision]

theorem evaluate_of_no_seed {f : Formula} (h : f.seed = none) :
    f.evaluate = .error .emptyFormula := by
  simp [evaluate, h]

end Formula

end FixedDecimal

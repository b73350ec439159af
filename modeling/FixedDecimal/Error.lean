import FixedDecimal.Binary64.Text
import FixedDecimal.Json.Problem
import FixedDecimal.Text.Quoted

/-! The reasons for which an operation of the library fails, and how they are told. -/
namespace FixedDecimal

inductive Slot where
  | numerator
  | denominator
deriving DecidableEq

def Slot.name : Slot → String
  | .numerator => "Numerator"
  | .denominator => "Denominator"

inductive Error where
  /-- A formula that has a value or a step cannot be given its first value. -/
  | formulaAlreadyPopulated
  | denominatorBeforeNumerator
  | consecutiveDenominator
  /-- A chain meant for one slot brought a denominator of its own. -/
  | nestedDenominator (slot : Slot)
  | emptyFormula
  | divisionByZero
  | invalidDecimal (text : String)
  | excessPrecision (literal : String) (digits : UInt32) (schema : String) (allowed : UInt32)
  | invalidExpression (text : String)
  | nonFiniteFloat (x : Binary64)
  | configuration (text : String)
  | serialization (problem : Json.Problem)
  /-- A number does not fit the representation asked for. -/
  | conversion (text : String)
deriving DecidableEq

namespace Error

def message : Error → String
  | .formulaAlreadyPopulated => "Cannot initialize a populated formula"
  | .denominatorBeforeNumerator => "Denominator cannot be invoked before numerator"
  | .consecutiveDenominator => "Illegal consecutive denominator invocation"
  | .nestedDenominator slot => s!"{slot.name} formula cannot have nested denominator formulas"
  | .emptyFormula => "Cannot evaluate an empty formula"
  | .divisionByZero => "Division by zero"
  | .invalidDecimal text => s!"Invalid decimal: {text}"
  | .excessPrecision literal digits schema allowed =>
    s!"Decimal {literal} has {digits} fractional digits, schema {schema} allows {allowed}"
  | .invalidExpression text => s!"Invalid expression: {text}"
  | .nonFiniteFloat x => s!"Cannot scale non-finite float: {String.ofList x.plainText}"
  | .configuration text => s!"Configuration error: {text}"
  | .serialization problem => s!"Serialization error: {problem.message}"
  | .conversion text => s!"Decimal conversion error: {text}"

def name : Error → String
  | .formulaAlreadyPopulated => "FormulaAlreadyPopulated"
  | .denominatorBeforeNumerator => "DenominatorBeforeNumerator"
  | .consecutiveDenominator => "ConsecutiveDenominator"
  | .nestedDenominator _ => "NestedDenominator"
  | .emptyFormula => "EmptyFormula"
  | .divisionByZero => "DivisionByZero"
  | .invalidDecimal _ => "InvalidDecimal"
  | .excessPrecision .. => "ExcessPrecision"
  | .invalidExpression _ => "InvalidExpression"
  | .nonFiniteFloat _ => "NonFiniteFloat"
  | .configuration _ => "ConfigurationError"
  | .serialization _ => "Serialization"
  | .conversion _ => "DecimalError"

def details : Error → String
  | .nestedDenominator slot => s!"({slot.name})"
  | .invalidDecimal text | .invalidExpression text | .configuration text | .conversion text =>
    s!"({Text.quoted text})"
  | .excessPrecision literal digits schema allowed =>
    " \x7b literal: " ++ Text.quoted literal ++ s!", digits: {digits}, schema: " ++
      Text.quoted schema ++ s!", precision: {allowed}" ++ " \x7d"
  | .nonFiniteFloat x => s!"({String.ofList x.plainText})"
  | .serialization problem =>
    s!"(Error({Text.quoted problem.text}, line: {problem.line}, column: {problem.column}))"
  | _ => ""

def report (e : Error) : String := e.name ++ e.details

/-- Says where a text went wrong; grammar and arithmetic errors keep their fixed messages. -/
def withContext (context : String) : Error → Error
  | .invalidDecimal text => .invalidDecimal s!"{context}: {text}"
  | .invalidExpression text => .invalidExpression s!"{context}: {text}"
  | .configuration text => .configuration s!"{context}: {text}"
  | .conversion text => .conversion s!"{context}: {text}"
  | e => e

end Error

@[simp] theorem ok_bind {α β : Type} (a : α) (f : α → Except Error β) :
    Except.ok a >>= f = f a := rfl

@[simp] theorem error_bind {α β : Type} (e : Error) (f : α → Except Error β) :
    Except.error e >>= f = .error e := rfl

theorem bind_eq_ok {α β : Type} {x : Except Error α} {f : α → Except Error β} {b : β} :
    x >>= f = .ok b ↔ ∃ a, x = .ok a ∧ f a = .ok b := by
  cases x <;> simp [bind, Except.bind]

theorem bind_eq_error {α β : Type} {x : Except Error α} {f : α → Except Error β} {e : Error} :
    x >>= f = .error e ↔ x = .error e ∨ ∃ a, x = .ok a ∧ f a = .error e := by
  cases x <;> simp [bind, Except.bind]

theorem map_eq_ok {ε α β : Type} {x : Except ε α} {f : α → β} {b : β} :
    x.map f = .ok b ↔ ∃ a, x = .ok a ∧ f a = b := by
  cases x <;> simp [Except.map]

theorem map_eq_error {α β : Type} {x : Except Error α} {f : α → β} {e : Error} :
    x.map f = .error e ↔ x = .error e := by
  cases x <;> simp [Except.map]

theorem mapError_eq_ok {α β : Type} {x : Except Error α} {f : Error → β} {a : α} :
    x.mapError f = .ok a ↔ x = .ok a := by
  cases x with
  | error => exact ⟨nofun, nofun⟩
  | ok => exact ⟨fun h => congrArg _ (Except.ok.inj h), fun h => congrArg _ (Except.ok.inj h)⟩

end FixedDecimal

import FixedDecimal.Calculator
import FixedDecimal.Decimal.Literal
import FixedDecimal.Text.Number

/-! Expressions as lists of words: a value, then any number of an operator and a value. Every
word is read from left to right without precedence, and the first division opens the
denominator. -/
namespace FixedDecimal

def Operator.ofWord? (word : String) : Option Operator :=
  match String.ofList (word.toList.map Char.toLower) with
  | "add" | "+" => some .add
  | "sub" | "-" => some .sub
  | "mul" | "x" | "*" => some .mul
  | "div" | "/" => some .div
  | _ => none

def Calculator.apply (c : Calculator) (operator : Operator) (x : Decimal) :
    Except Error Calculator :=
  match operator with
  | .add => .ok (c.add x)
  | .sub => .ok (c.subtractBy x)
  | .mul => .ok (c.multiplyBy x)
  | .div => c.divideBy x

namespace Expression

def splitMark? (cs : List Char) : List Char × Option (List Char) :=
  match cs.dropWhile (· != '@') with
  | [] => (cs, none)
  | _ :: after => (cs.takeWhile (· != '@'), some after)

/-- Reads a value: a decimal literal, and after a mark the precision to bring it to. The precision
is read before the literal, and it must not take away digits. -/
def readValue (word : String) : Except Error Decimal :=
  match splitMark? word.toList with
  | (_, none) => Decimal.read word
  | (front, some after) =>
    let literal := String.ofList front
    match Text.word? after with
    | none => .error (.invalidDecimal s!"{word} has an invalid precision suffix")
    | some precision => do
      let x ← Decimal.read literal
      if precision < x.precision then
        .error (.invalidDecimal s!"{literal} has more than {precision} fractional digits")
      else return x.rescale precision

def valueAt (position : Nat) (word : String) : Except Error Decimal :=
  (readValue word).mapError (Error.withContext s!"argument {position}")

def operatorAt (position : Nat) (word : String) : Except Error Operator :=
  match Operator.ofWord? word with
  | some operator => .ok operator
  | none => .error
      (.invalidExpression s!"expected an operator at argument {position}, found {word}")

def extend (c : Calculator) (position : Nat) : List String → Except Error Calculator
  | [] => .ok c
  | [word] => do
    let _ ← operatorAt position word
    .error (.invalidExpression s!"missing value after {word}")
  | word :: next :: rest => do
    let operator ← operatorAt position word
    let x ← valueAt (position + 1) next
    extend (← c.apply operator x) (position + 2) rest

def read : List String → Except Error Calculator
  | [] => .error (.invalidExpression "expected at least one value")
  | word :: rest => do extend (.first (← valueAt 1 word)) 2 rest

end Expression

end FixedDecimal

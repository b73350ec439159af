import FixedDecimal.Amount
import FixedDecimal.Json.Value

/-! Amounts in JSON. An amount is written as the text of its magnitude. Texts are read as
magnitudes, and numbers as quantities of the unit. -/
namespace FixedDecimal.Json

inductive MachineInteger where
  | signed64 (n : Int64)
  | unsigned64 (n : UInt64)
  | signed128 (n : BitVec 128)
  | unsigned128 (n : BitVec 128)
deriving DecidableEq

def MachineInteger.value : MachineInteger → Int
  | .signed64 n => n.toInt
  | .unsigned64 n => n.toNat
  | .signed128 n => n.toInt
  | .unsigned128 n => n.toNat

variable {α : Type}

def amountOfText (s : Schema) (text : String) : Except Failure (Amount s) :=
  (Amount.readMagnitude s text).mapError fun e => .ofText e.message

def amountOfInteger (s : Schema) (n : Int) : Except Failure (Amount s) :=
  (Amount.read s (String.ofList (Text.integer n))).mapError fun e => .ofText e.message

def amountOfMachineInteger (s : Schema) (n : MachineInteger) : Except Failure (Amount s) :=
  amountOfInteger s n.value

/-- The amount of a quantity: integers are exact, and doubles are rounded to the schema. -/
def amountOfNumber (s : Schema) : Number → Except Failure (Amount s)
  | .integer n => amountOfInteger s n
  | .double x => (Amount.ofBinary64 s x).mapError fun e => .ofText e.message

def Reader.amount (s : Schema) : Reader (Amount s) := do
  match ← Reader.head with
  | .string cs => amountOfText s (String.ofList cs)
  | .number n => amountOfNumber s n
  | other => other.mismatch s!"an integer string or a number for schema {s.name}"

def Reader.list (item : Reader α) : Reader (List α) := do
  match ← Reader.head with
  | .array => return (← Reader.items ']' (fun found => do return (← item) :: found) []).reverse
  | other => other.mismatch "a sequence"

def Reader.optional (item : Reader α) : Reader (Option α) := do
  Reader.skipBlanks
  match ← get with
  | 'n' :: _ =>
    let _ ← Reader.lexeme
    return none
  | _ => return some (← item)

def readAmount (s : Schema) (text : String) : Except Failure (Amount s) :=
  Reader.document (Reader.amount s) text

def readAmounts (s : Schema) (text : String) : Except Failure (List (Amount s)) :=
  Reader.document (Reader.list (Reader.amount s)) text

def readOptionalAmount (s : Schema) (text : String) : Except Failure (Option (Amount s)) :=
  Reader.document (Reader.optional (Reader.amount s)) text

end FixedDecimal.Json

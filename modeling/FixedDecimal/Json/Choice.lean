import FixedDecimal.Formula
import FixedDecimal.Json.Value
import FixedDecimal.Rounding.Name

/-! Choices in JSON: one of several names, as a string or as the only key of an object that holds
null. -/
namespace FixedDecimal.Json

variable {α : Type}

def Reader.named (all : List α) (name : α → String) (cs : List Char) : Reader α :=
  let given := String.ofList cs
  match all.find? fun x => name x == given with
  | some x => return x
  | none =>
    let names := ", ".intercalate (all.map fun x => s!"`{name x}`")
    Reader.reject s!"unknown variant `{given}`, expected one of {names}"

def Reader.choice (all : List α) (name : α → String) : Reader α := do
  Reader.skipBlanks
  match ← get with
  | '"' :: _ => Reader.named all name (← Reader.key)
  | '\x7b' :: rest =>
    set rest
    let x ← Reader.named all name (← Reader.key)
    Reader.expect ':'
    match ← Reader.head with
    | .null =>
      Reader.expect '\x7d'
      return x
    | other => other.mismatch "unit"
  | _ => Reader.malformed

def readRounding (text : String) : Except Failure Rounding :=
  Reader.document (Reader.choice Rounding.all Rounding.name) text

def readOperator (text : String) : Except Failure Operator :=
  Reader.document (Reader.choice Operator.all Operator.name) text

end FixedDecimal.Json

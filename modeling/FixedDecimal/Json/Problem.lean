import FixedDecimal.Text.Number

/-! What was wrong with a document that was read, with the place where it was found when that is
known. -/
namespace FixedDecimal.Json

/-- A line number of zero stands for an unknown place. -/
structure Problem where
  text : String
  line : Nat
  column : Nat
deriving DecidableEq

namespace Problem

def splitLast? (pattern : List Char) : List Char → Option (List Char × List Char)
  | [] => none
  | c :: rest =>
    match splitLast? pattern rest with
    | some (front, back) => some (c :: front, back)
    | none => if pattern.isPrefixOf (c :: rest) then some ([], (c :: rest).drop pattern.length)
              else none

def place? (cs : List Char) : Option Nat := (Text.natural? cs).filter (· < UInt64.size)

def splitPlace? (cs : List Char) : Option (List Char × Nat × Nat) := do
  let (front, back) ← splitLast? " at line ".toList cs
  let lineDigits := back.takeWhile Char.isDigit
  let afterLine := back.dropWhile Char.isDigit
  let word := " column ".toList
  guard (word.isPrefixOf afterLine)
  let line ← place? lineDigits
  let column ← place? (afterLine.drop word.length)
  some (front, line, column)

def ofText (s : String) : Problem :=
  match splitPlace? s.toList with
  | some (front, line, column) => ⟨String.ofList front, line, column⟩
  | none => ⟨s, 0, 0⟩

def message (p : Problem) : String :=
  if p.line = 0 then p.text else s!"{p.text} at line {p.line} column {p.column}"

end Problem

end FixedDecimal.Json

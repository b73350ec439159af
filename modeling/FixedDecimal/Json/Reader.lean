import FixedDecimal.Json.Problem

/-! Readers of JSON text. A reader takes characters off the front of a text and leaves the rest;
the first problem in reading order decides how a document fails. -/
namespace FixedDecimal.Json

inductive Failure where
  /-- The text is no JSON, or a number in it is too large. -/
  | malformed
  /-- The JSON has the wrong shape, or its value is refused. -/
  | rejected (text : String)
deriving DecidableEq

/-- A value that is refused in these words; the place of the value is no part of the reason. -/
def Failure.ofText (text : String) : Failure := .rejected (Problem.ofText text).text

abbrev Reader := StateT (List Char) (Except Failure)

namespace Reader

variable {α β : Type}

def malformed : Reader α := throw .malformed

def reject (text : String) : Reader α := throw (.ofText text)

def isBlank (c : Char) : Bool := c == ' ' || c == '\n' || c == '\t' || c == '\r'

def skipBlanks : Reader Unit := modify (List.dropWhile isBlank)

def ofOption (read : List Char → Option (α × List Char)) : Reader α := fun cs =>
  match read cs with
  | some r => .ok r
  | none => .error .malformed

def token : Reader Char := do
  skipBlanks
  ofOption fun
    | [] => none
    | c :: rest => some (c, rest)

def takes (c : Char) : Reader Bool := do
  skipBlanks
  match ← get with
  | d :: rest => if d = c then do set rest; return true else return false
  | [] => return false

def expect (c : Char) : Reader Unit := do
  if ← takes c then return () else malformed

/-- Reads items after the first, separated by commas, up to a closing bracket; a result is carried
from item to item. Each item takes at least one character, so the length of the text bounds their
number. -/
def moreItems (close : Char) (item : β → Reader β) : Nat → β → Reader β
  | 0, _ => malformed
  | bound + 1, result => do
    let c ← token
    if c = close then return result
    else if c = ',' then do moreItems close item bound (← item result)
    else malformed

def items (close : Char) (item : β → Reader β) (start : β) : Reader β := do
  if ← takes close then return start
  else do
    let result ← item start
    moreItems close item ((← get).length + 1) result

def document (read : Reader α) (text : String) : Except Failure α := do
  let (x, rest) ← read text.toList
  if (rest.dropWhile isBlank).isEmpty then return x else throw .malformed

end Reader

end FixedDecimal.Json

import FixedDecimal.Binary64.Text
import FixedDecimal.Json.Chars
import FixedDecimal.Json.Number
import FixedDecimal.Json.Reader
import FixedDecimal.Text.Quoted

/-! JSON values as far as a reader sees them: scalars whole, arrays and objects by their opening
bracket. -/
namespace FixedDecimal.Json

/-- A scalar or an opening bracket, before strings are joined and numbers are valued. -/
inductive Lexeme where
  | null
  | bool (b : Bool)
  | number (t : NumberText)
  | string (pieces : List Piece)
  | openArray
  | openObject
deriving DecidableEq

inductive Head where
  | null
  | bool (b : Bool)
  | number (n : Number)
  | string (cs : List Char)
  | array
  | object
deriving DecidableEq

namespace Reader

def letters (word : List Char) (value : Lexeme) : Reader Lexeme := ofOption fun cs =>
  if word.isPrefixOf cs then some (value, cs.drop word.length) else none

def lexeme : Reader Lexeme := do
  let c ← token
  match c with
  | 'n' => letters "ull".toList .null
  | 't' => letters "rue".toList (.bool true)
  | 'f' => letters "alse".toList (.bool false)
  | '"' => return .string (← ofOption Piece.readAll)
  | '[' => return .openArray
  | '\x7b' => return .openObject
  | c =>
    if c = '-' ∨ c.isDigit then do
      modify (c :: ·)
      return .number (← ofOption NumberText.read?)
    else malformed

/-- Skips a value. Its strings need not be joined nor its numbers valued; no value is nested
deeper than the given bound. -/
def skipValue : Nat → Reader Unit
  | 0 => malformed
  | depth + 1 => do
    match ← lexeme with
    | .openArray => items ']' (fun _ => skipValue depth) ()
    | .openObject =>
      items '\x7d' (fun _ => do
        expect '"'
        let _ ← ofOption Piece.readAll
        expect ':'
        skipValue depth) ()
    | _ => return ()

def skip : Reader Unit := do skipValue (← get).length

def joined (pieces : List Piece) : Reader (List Char) :=
  match Piece.join? pieces with
  | some cs => return cs
  | none => malformed

def head : Reader Head := do
  match ← lexeme with
  | .null => return .null
  | .bool b => return .bool b
  | .number t =>
    match Number.ofText? t with
    | some n => return .number n
    | none => malformed
  | .string pieces => return .string (← joined pieces)
  | .openArray => return .array
  | .openObject => return .object

end Reader

namespace Head

def describe : Head → String
  | .null => "null"
  | .bool b => s!"boolean `{b}`"
  | .number (.integer n) => s!"integer `{n}`"
  | .number (.double x) => s!"floating point `{String.ofList x.exponentText}`"
  | .string cs => "string " ++ String.ofList (Text.quotedChars cs)
  | .array => "sequence"
  | .object => "map"

def mismatch {α : Type} (h : Head) (expected : String) : Reader α :=
  Reader.reject s!"invalid type: {h.describe}, expected {expected}"

end Head

namespace Reader

def string (expected : String) : Reader (List Char) := do
  match ← head with
  | .string cs => return cs
  | other => other.mismatch expected

def key : Reader (List Char) := do
  expect '"'
  joined (← ofOption Piece.readAll)

end Reader

end FixedDecimal.Json

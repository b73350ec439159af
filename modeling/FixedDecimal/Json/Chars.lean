/-! Characters of a JSON string. Escapes name 16-bit units; two units that form a surrogate pair
are one character, and a surrogate without its partner is none. -/
namespace FixedDecimal.Json

inductive Piece where
  | plain (c : Char)
  | unit (n : Nat)
deriving DecidableEq

namespace Piece

def hexDigit? (c : Char) : Option Nat :=
  if '0' ≤ c ∧ c ≤ '9' then some (c.toNat - '0'.toNat)
  else if 'a' ≤ c ∧ c ≤ 'f' then some (c.toNat - 'a'.toNat + 10)
  else if 'A' ≤ c ∧ c ≤ 'F' then some (c.toNat - 'A'.toNat + 10)
  else none

def unit? (a b c d : Char) : Option Piece := do
  return .unit (((← hexDigit? a) * 16 + (← hexDigit? b)) * 256 +
    (← hexDigit? c) * 16 + (← hexDigit? d))

def simpleEscape? : Char → Option Char
  | '"' => some '"'
  | '\\' => some '\\'
  | '/' => some '/'
  | 'b' => some '\x08'
  | 'f' => some '\x0c'
  | 'n' => some '\n'
  | 'r' => some '\r'
  | 't' => some '\t'
  | _ => none

def readAll : List Char → Option (List Piece × List Char)
  | [] => none
  | '"' :: rest => some ([], rest)
  | '\\' :: 'u' :: a :: b :: c :: d :: rest => do
    let piece ← unit? a b c d
    let (pieces, after) ← readAll rest
    return (piece :: pieces, after)
  | '\\' :: c :: rest => do
    let plainChar ← simpleEscape? c
    let (pieces, after) ← readAll rest
    return (.plain plainChar :: pieces, after)
  | c :: rest =>
    if c.toNat < 0x20 ∨ c = '\\' then none
    else do
      let (pieces, after) ← readAll rest
      return (.plain c :: pieces, after)

def isLeading (n : Nat) : Bool := 0xD800 ≤ n && n < 0xDC00
def isTrailing (n : Nat) : Bool := 0xDC00 ≤ n && n < 0xE000

def join? : List Piece → Option (List Char)
  | [] => some []
  | .plain c :: rest => (join? rest).map (c :: ·)
  | .unit n :: rest =>
    if isTrailing n then none
    else if isLeading n then
      match rest with
      | .unit m :: after =>
        if isTrailing m then
          (join? after).map (Char.ofNat (0x10000 + (n - 0xD800) * 0x400 + (m - 0xDC00)) :: ·)
        else none
      | _ => none
    else (join? rest).map (Char.ofNat n :: ·)

end Piece

end FixedDecimal.Json

import FixedDecimal.Text.Digits

/-! Readers of whole numbers: 32-bit words, bounded integers and integers of any size. Each reads
its whole text or refuses it. -/
namespace FixedDecimal.Text

def natural? : List Char → Option Nat
  | [] => none
  | cs => if allDigits cs then some (ofDigits cs) else none

/-- Reads a number below `2 ^ 32`; one plus sign may stand before it. -/
def word? (cs : List Char) : Option UInt32 :=
  let unsigned := match cs with
    | '+' :: rest => rest
    | _ => cs
  match natural? unsigned with
  | some n => if n < UInt32.size then some (UInt32.ofNat n) else none
  | none => none

def signed? : List Char → Option Int
  | '-' :: rest => (natural? rest).map fun n => -(n : Int)
  | '+' :: rest => (natural? rest).map Int.ofNat
  | cs => (natural? cs).map Int.ofNat

inductive IntegerFault where
  | empty
  | badDigit
deriving DecidableEq

def IntegerFault.message : IntegerFault → String
  | .empty => "cannot parse integer from empty string"
  | .badDigit => "invalid digit found in string"

/-- Reads digits, skipping the underscores between and after them. -/
def groupedNatural : List Char → Except IntegerFault Nat
  | [] => .error .empty
  | '_' :: _ => .error .badDigit
  | cs =>
    let written := cs.filter (· != '_')
    if allDigits written then .ok (ofDigits written) else .error .badDigit

def groupedInteger : List Char → Except IntegerFault Int
  | '-' :: rest => (groupedNatural rest).map fun n => -(n : Int)
  | '+' :: rest => (groupedNatural rest).map Int.ofNat
  | cs => (groupedNatural cs).map Int.ofNat

theorem natural?_digits (n : Nat) : natural? (digits n) = some n := by
  cases hd : digits n with
  | nil => exact absurd hd (digits_ne_nil n)
  | cons c rest =>
    rw [natural?, ← hd, allDigits_digits, ofDigits_digits]
    · rfl
    · simp

end FixedDecimal.Text

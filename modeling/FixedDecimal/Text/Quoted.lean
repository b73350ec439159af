import FixedDecimal.Text.Unprintable

/-! Quoted text. A quote and a backslash are escaped, and so is every character that would not
show. -/
namespace FixedDecimal.Text

def hexDigits (n : Nat) : List Char := Nat.toDigits 16 n

def escaped : Char → List Char
  | '"' => ['\\', '"']
  | '\\' => ['\\', '\\']
  | '\n' => ['\\', 'n']
  | '\r' => ['\\', 'r']
  | '\t' => ['\\', 't']
  | '\x00' => ['\\', '0']
  | c =>
    if isUnprintable c then ['\\', 'u', '\x7b'] ++ hexDigits c.toNat ++ ['\x7d'] else [c]

def quotedChars (cs : List Char) : List Char := '"' :: cs.flatMap escaped ++ ['"']

def quoted (s : String) : String := String.ofList (quotedChars s.toList)

end FixedDecimal.Text

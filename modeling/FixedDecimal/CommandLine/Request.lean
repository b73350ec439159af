import FixedDecimal.Decimal.Basic
import FixedDecimal.Rounding.Name
import FixedDecimal.Text.Number

/-! What a command line asks for. Options may stand before, between and after the values; each is
given at most once. What begins with a hyphen is an option, unless it is a hyphen alone, or a
negative number where a value may still come, or stands after two hyphens. -/
namespace FixedDecimal.CommandLine

inductive Command where
  | eval (words : List String)
  | rescale (word : String)
deriving DecidableEq

structure Request where
  command : Command
  precision : Option Precision
  rounding : Option Rounding
  json : Bool
deriving DecidableEq

inductive Stop where
  | misuse
  | help
  | version
deriving DecidableEq

inductive Setting where
  | precision
  | rounding
deriving DecidableEq

/-- Digits with an inner or final point and an exponent, of which the last two may be missing. The
flags tell whether a point may still come and whether an exponent may. -/
def isNumberTail (point exponent : Bool) : List Char → Bool
  | [] => true
  | [c] => c.isDigit || (c == '.' && point)
  | c :: rest =>
    if c.isDigit then isNumberTail point exponent rest
    else if c = '.' then point && isNumberTail false exponent rest
    else if c = 'e' ∨ c = 'E' then exponent && isNumberTail false false rest
    else false

def isNegativeNumber : List Char → Bool
  | '-' :: c :: rest => c.isDigit && isNumberTail true true rest
  | _ => false

inductive Task where
  | eval
  | rescale
deriving DecidableEq

structure Draft where
  task : Task
  values : List String
  precision : Option Precision
  rounding : Option Rounding
  json : Bool
deriving DecidableEq

namespace Draft

def start (task : Task) : Draft := ⟨task, [], none, none, false⟩

def finish (r : Draft) : Except Stop Request :=
  match r.task, r.values with
  | .eval, word :: words => .ok ⟨.eval (word :: words), r.precision, r.rounding, r.json⟩
  | .rescale, [word] => .ok ⟨.rescale word, r.precision, r.rounding, r.json⟩
  | _, _ => .error .misuse

def takesValue (r : Draft) : Bool :=
  match r.task with
  | .eval => true
  | .rescale => r.values.isEmpty

def addValue (r : Draft) (value : String) : Except Stop Draft :=
  if r.takesValue then .ok { r with values := r.values ++ [value] } else .error .misuse

def isOption (r : Draft) (arg : List Char) : Bool :=
  match arg with
  | '-' :: _ :: _ => !(r.takesValue && isNegativeNumber arg)
  | _ => false

def precision? (cs : List Char) : Option Precision := do
  let n ← Text.signed? cs
  if 0 ≤ n ∧ n < UInt32.size then some (UInt32.ofNat n.toNat) else none

def set (r : Draft) (setting : Setting) (value : List Char) : Except Stop Draft :=
  match setting with
  | .precision =>
    match r.precision, precision? value with
    | none, some p => .ok { r with precision := some p }
    | _, _ => .error .misuse
  | .rounding =>
    match r.rounding, (Rounding.read (String.ofList value)).toOption with
    | none, some mode => .ok { r with rounding := some mode }
    | _, _ => .error .misuse

def setJson (r : Draft) : Except Stop Draft :=
  if r.json then .error .misuse else .ok { r with json := true }

/-- Takes the letters after one hyphen. The letter of a setting takes what follows it as its
value, after an equals sign or without one; a setting that is last leaves its value to the next
argument. -/
def takeLetters (r : Draft) : List Char → Except Stop (Draft × Option Setting)
  | [] => .ok (r, none)
  | c :: rest =>
    if c = 'j' then do takeLetters (← r.setJson) rest
    else if c = 'h' then .error .help
    else
      let setting? : Option Setting :=
        if c = 'p' then some .precision else if c = 'r' then some .rounding else none
      match setting?, rest with
      | none, _ => .error .misuse
      | some setting, [] => .ok (r, some setting)
      | some setting, '=' :: value => do return (← r.set setting value, none)
      | some setting, value => do return (← r.set setting value, none)

def takeLong (r : Draft) (cs : List Char) : Except Stop (Draft × Option Setting) :=
  let name := String.ofList (cs.takeWhile (· != '='))
  match name, cs.dropWhile (· != '=') with
  | "precision", [] => .ok (r, some .precision)
  | "precision", _ :: value => do return (← r.set .precision value, none)
  | "rounding", [] => .ok (r, some .rounding)
  | "rounding", _ :: value => do return (← r.set .rounding value, none)
  | "json", [] => do return (← r.setJson, none)
  | "help", [] => .error .help
  | _, _ => .error .misuse

def takeOption (r : Draft) : List Char → Except Stop (Draft × Option Setting)
  | '-' :: '-' :: cs => r.takeLong cs
  | '-' :: cs => r.takeLetters cs
  | _ => .error .misuse

def takeAll (r : Draft) : List String → Except Stop Request
  | [] => r.finish
  | arg :: rest =>
    if arg = "--" then do (← rest.foldlM addValue r).finish
    else if r.isOption arg.toList then
      match r.takeOption arg.toList with
      | .error stop => .error stop
      | .ok (r', none) => r'.takeAll rest
      | .ok (r', some setting) =>
        match rest with
        | [] => .error .misuse
        | value :: rest' =>
          if r'.isOption value.toList then .error .misuse
          else do (← r'.set setting value.toList).takeAll rest'
    else do (← r.addValue arg).takeAll rest

end Draft

/-- Takes the letters after one hyphen before any command. Only the log level has a value; the
result tells whether that value is left to the next argument. -/
def takeGlobalLetters : List Char → Except Stop Bool
  | 'V' :: _ => .error .version
  | 'h' :: _ => .error .help
  | ['l'] => .ok true
  | 'l' :: _ => .ok false
  | _ => .error .misuse

def takeGlobal : List Char → Except Stop Bool
  | '-' :: '-' :: cs =>
    let name := String.ofList (cs.takeWhile (· != '='))
    match name, cs.dropWhile (· != '=') with
    | "log-level", [] => .ok true
    | "log-level", _ :: _ => .ok false
    | "help", [] => .error .help
    | "version", [] => .error .version
    | _, _ => .error .misuse
  | '-' :: cs => takeGlobalLetters cs
  | _ => .error .misuse

def helpAbout : List String → Stop
  | [] | ["eval"] | ["rescale"] | ["help"] => .help
  | _ => .misuse

/-- The log level may be set once before the command; it changes no result. -/
def request (levelGiven : Bool) : List String → Except Stop Request
  | [] => .error .misuse
  | arg :: rest =>
    if arg = "eval" then (Draft.start .eval).takeAll rest
    else if arg = "rescale" then (Draft.start .rescale).takeAll rest
    else if arg = "help" then .error (helpAbout rest)
    else
      match takeGlobal arg.toList with
      | .error stop => .error stop
      | .ok valueLeft =>
        if levelGiven then .error .misuse
        else if valueLeft then
          match rest with
          | [] => .error .misuse
          | value :: rest' =>
            match value.toList with
            | '-' :: _ :: _ => .error .misuse
            | _ => request true rest'
        else request true rest

end FixedDecimal.CommandLine

import FixedDecimal.Expression
import FixedDecimal.Rounding.Name
import FixedDecimal.Text.Number

/-! Settings of a calculation and the environment variables that hold them. A variable that cannot
be read counts as missing. -/
namespace FixedDecimal

/-- Names with their values; the first entry of a name counts. -/
abbrev Environment := List (String × String)

structure Config where
  precision : Precision
  rounding : Rounding
  jsonOutput : Bool
deriving DecidableEq

namespace Config

def precisionVariable : String := "DECIMAL_CALC_PRECISION"
def roundingVariable : String := "DECIMAL_CALC_ROUNDING"
def jsonVariable : String := "DECIMAL_CALC_JSON"

def standard : Config := ⟨6, .towardZero, false⟩

def ofEnvironment (env : Environment) : Config where
  precision := ((env.lookup precisionVariable).bind fun s => Text.word? s.toList).getD
    standard.precision
  rounding := ((env.lookup roundingVariable).bind fun s => (Rounding.read s).toOption).getD
    standard.rounding
  jsonOutput := env.lookup jsonVariable == some "true" || env.lookup jsonVariable == some "1"

/-- Options replace the settings they name; JSON output can only be switched on. -/
def withOverrides (c : Config) (precision : Option Precision) (rounding : Option Rounding)
    (json : Bool) : Config where
  precision := precision.getD c.precision
  rounding := rounding.getD c.rounding
  jsonOutput := c.jsonOutput || json

end Config

def evaluateWords (words : List String) (config : Config) : Except Error Decimal := do
  (← Expression.read words).calculateAt config.precision config.rounding

def rescaleWord (word : String) (config : Config) : Except Error Decimal := do
  return (← Expression.readValue word).rescaleWith config.precision config.rounding

end FixedDecimal

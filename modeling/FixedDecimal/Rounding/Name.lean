import FixedDecimal.Error
import FixedDecimal.Rounding.Basic
import FixedDecimal.Text.Blank

/-! Rounding modes by name. Each mode has one name of its own; a reader of settings also takes
other usual names, in any case, with hyphens for underscores and blanks around them. -/
namespace FixedDecimal.Rounding

def all : List Rounding := [.towardZero, .halfAwayFromZero, .halfEven]

def name : Rounding → String
  | .towardZero => "toward_zero"
  | .halfAwayFromZero => "half_away_from_zero"
  | .halfEven => "half_even"

def ofUsualName? : String → Option Rounding
  | "toward_zero" | "truncate" | "down" => some .towardZero
  | "half_away_from_zero" | "half_up" => some .halfAwayFromZero
  | "half_even" | "bankers" => some .halfEven
  | _ => none

/-- Takes away what does not matter in a name; only ASCII letters have a lower case here. -/
def normalisedName (s : String) : String :=
  String.ofList ((Text.trim s.toList).map fun c => if c = '-' then '_' else c.toLower)

def read (s : String) : Except Error Rounding :=
  match ofUsualName? (normalisedName s) with
  | some mode => .ok mode
  | none => .error (.configuration s!"Unknown rounding mode: {normalisedName s}")

end FixedDecimal.Rounding

import FixedDecimal.Decimal.Basic

/-! Schemas: named units with a fixed number of fractional digits. -/
namespace FixedDecimal

structure Schema where
  name : String
  precision : Precision
deriving DecidableEq

namespace Schema

def usd : Schema := ⟨"Usd", 15⟩
def collateral : Schema := ⟨"Collateral", 9⟩
def price : Schema := ⟨"Price", 18⟩
def size : Schema := ⟨"Size", 18⟩
def percentage : Schema := ⟨"Percentage", 18⟩
def ratio : Schema := ⟨"Ratio", 18⟩

def unbranded : Schema := ⟨"Unbranded", 6⟩

def catalogue : List Schema := [usd, collateral, price, size, percentage, ratio, unbranded]

end Schema

end FixedDecimal

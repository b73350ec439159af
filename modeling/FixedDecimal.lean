import FixedDecimal.Amount
import FixedDecimal.Json.Amount
import FixedDecimal.Json.Choice
import FixedDecimal.Json.Decimal
import FixedDecimal.Json.Writer
import FixedDecimal.Main
import FixedDecimal.Proofs.Rounding.Exact
import FixedDecimal.Proofs.Rounding.Truncation
import FixedDecimal.Proofs.Decimal.Value
import FixedDecimal.Proofs.Formula.Reference
import FixedDecimal.Proofs.Formula.Refinement
import FixedDecimal.Proofs.Calculator.Reachable
import FixedDecimal.Proofs.Calculator.Fraction
import FixedDecimal.Proofs.Calculator.Agreement
import FixedDecimal.Proofs.Calculator.SingleRounding
import FixedDecimal.Proofs.Decimal.Numeral
import FixedDecimal.Proofs.Decimal.CanonicalText
import FixedDecimal.Proofs.Calculator.Operands
import FixedDecimal.Proofs.Expression.Grammar
import FixedDecimal.Proofs.Expression.Writing
import FixedDecimal.Proofs.Rounding.IntegerQuotient
import FixedDecimal.Proofs.Decimal.Literal
import FixedDecimal.Proofs.Decimal.LiteralValue
import FixedDecimal.Proofs.CommandLine.Settings
import FixedDecimal.Proofs.CommandLine.Options
import FixedDecimal.Proofs.CommandLine.Evaluation
import FixedDecimal.Proofs.Json.Scalars
import FixedDecimal.Proofs.Json.Reading
import FixedDecimal.Proofs.Json.RoundTrip
import FixedDecimal.Proofs.Decimal.Rescaling
import FixedDecimal.Proofs.Calculator.LaterRounding
import FixedDecimal.Proofs.Formula.Outcome
import FixedDecimal.Proofs.Formula.Reordering
import FixedDecimal.Proofs.Formula.Powers
import FixedDecimal.Proofs.Calculator.Chains
import FixedDecimal.Proofs.Calculator.Seedless
import FixedDecimal.Proofs.Expression.Offence
import FixedDecimal.Proofs.Expression.DeclaredPrecision
import FixedDecimal.Proofs.Amount.Decimal96
import FixedDecimal.Proofs.Binary64.Nearest
import FixedDecimal.Proofs.Binary64.Shortest
import FixedDecimal.Proofs.Binary64.Text
import FixedDecimal.Proofs.Amount.Binary64
import FixedDecimal.Proofs.Json.Quantities
import FixedDecimal.Proofs.Amount.Magnitude
import FixedDecimal.Proofs.Calculator.Staging

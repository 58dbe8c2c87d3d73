import Formulary.Decimal.Rounding
import Formulary.Decimal.Division
import Formulary.Decimal.Reader
import Formulary.Decimal.Printer
import Formulary.Decimal.Nearest
import Formulary.Text.Alphanumeric
import Formulary.Text.Blank
import Formulary.Text.Case
import Formulary.Calendar.Pattern
import Formulary.Calendar.Reader
import Formulary.Node
import Formulary.Fault
import Formulary.Arithmetic
import Formulary.Text.Slice
import Formulary.Scan.Scanner
import Formulary.Engine
import Formulary.TextPattern.Replace
import Formulary.Builtin.Library
import Formulary.Serialization
import Formulary.Proofs.Precedence
import Formulary.Proofs.ScanResult
import Formulary.Proofs.StackEvaluation
import Formulary.Proofs.Tokens
import Formulary.Proofs.Numerals
import Formulary.Proofs.RoundTrip
import Formulary.Proofs.Grammar
import Formulary.Proofs.WellFormed
import Formulary.Proofs.Spans
import Formulary.Proofs.CacheInvariant
import Formulary.Proofs.Recency
import Formulary.Proofs.EvaluationFaults
import Formulary.Proofs.CacheInvisible
import Formulary.Proofs.Ownership
import Formulary.Proofs.Registration
import Formulary.Proofs.Places
import Formulary.Proofs.Composition
import Formulary.Proofs.FaultOrder
import Formulary.Proofs.ExactFormulas
import Formulary.Proofs.CallGate
import Formulary.Proofs.Retained
import Formulary.Proofs.Signatures
import Formulary.Proofs.ScanBounds
import Formulary.Proofs.Mentions
import Formulary.Proofs.Brackets
import Formulary.Proofs.CallFaults
import Formulary.Proofs.Rounding
import Formulary.Proofs.LongDivision
import Formulary.Proofs.Quotient
import Formulary.Proofs.ExactExponents
import Formulary.Proofs.ExactOperations
import Formulary.Proofs.ShortQuotients
import Formulary.Proofs.ExactPowers
import Formulary.Proofs.FixedText
import Formulary.Proofs.DoubleRange
import Formulary.Proofs.Literals
import Formulary.Proofs.Cancellation
import Formulary.Proofs.NumberTexts
import Formulary.Proofs.TwoReaders
import Formulary.Proofs.OperatorMethods
import Formulary.Proofs.OpenLevels
import Formulary.Proofs.EpochMillis
import Formulary.Proofs.PendingValues
import Formulary.Proofs.DatetimeFields
import Formulary.Proofs.DateTexts
import Formulary.Proofs.JsonTexts
import Formulary.Proofs.SerializedValues
import Formulary.Proofs.TextPlaces
import Formulary.Proofs.TextLimits
import Formulary.Proofs.EarlyFaults
import Formulary.Proofs.RearrangedLevels
import Formulary.Proofs.TrimmedTexts
import Formulary.Proofs.ScaleBound

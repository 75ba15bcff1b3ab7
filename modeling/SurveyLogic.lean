import SurveyLogic.Codec.Report
import SurveyLogic.Editor
import SurveyLogic.Json.Printer
import SurveyLogic.Proofs.Quotes
import SurveyLogic.Proofs.Separators
import SurveyLogic.Proofs.Splitting
import SurveyLogic.Proofs.Operands
import SurveyLogic.Proofs.Values
import SurveyLogic.Proofs.ClauseForms
import SurveyLogic.Proofs.Checks
import SurveyLogic.Proofs.Selections
import SurveyLogic.Proofs.ClauseReading
import SurveyLogic.Proofs.ExpressionReading
import SurveyLogic.Proofs.ClauseTexts
import SurveyLogic.Proofs.Writing
import SurveyLogic.Proofs.Saving
import SurveyLogic.Proofs.RoundTrip
import SurveyLogic.Proofs.Chains
import SurveyLogic.Proofs.Leftmost
import SurveyLogic.Proofs.Splices
import SurveyLogic.Proofs.Joining
import SurveyLogic.Proofs.Styles
import SurveyLogic.Proofs.Readable
import SurveyLogic.Proofs.Accounting
import SurveyLogic.Proofs.Enclosure
import SurveyLogic.Proofs.Dangling
import SurveyLogic.Proofs.Truncation
import SurveyLogic.Proofs.Agreement
import SurveyLogic.Proofs.Rebinding
import SurveyLogic.Proofs.WireFormat
import SurveyLogic.Proofs.RefusedClauses
import SurveyLogic.Proofs.Insertion
import SurveyLogic.Proofs.Options
import SurveyLogic.Proofs.Lookup
import SurveyLogic.Proofs.FormText
import SurveyLogic.Proofs.DuplicateNames
import SurveyLogic.Proofs.LiteralDecoding
import SurveyLogic.Proofs.UnknownNames
import SurveyLogic.Proofs.QuotedSpans
import SurveyLogic.Proofs.SplitPoints
import SurveyLogic.Proofs.RecordForms
import SurveyLogic.Proofs.Editing

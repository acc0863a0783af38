import FullTextSearch.Entries
import FullTextSearch.Fault
import FullTextSearch.Number.Binary64
import FullTextSearch.Number.Numeral
import FullTextSearch.Number.Reading
import FullTextSearch.Number.Shortest
import FullTextSearch.Outcome
import FullTextSearch.Proofs.Clamping
import FullTextSearch.Proofs.CleanedOptions
import FullTextSearch.Proofs.Concatenation
import FullTextSearch.Proofs.Description
import FullTextSearch.Proofs.Desugar
import FullTextSearch.Proofs.DesugaredForm
import FullTextSearch.Proofs.ErrorLocation
import FullTextSearch.Proofs.Expression
import FullTextSearch.Proofs.FieldLocality
import FullTextSearch.Proofs.FieldReading
import FullTextSearch.Proofs.Grammar
import FullTextSearch.Proofs.JsonOptions
import FullTextSearch.Proofs.JsonReading
import FullTextSearch.Proofs.JsonText
import FullTextSearch.Proofs.JsonWriting
import FullTextSearch.Proofs.Juxtaposition
import FullTextSearch.Proofs.LastWrite
import FullTextSearch.Proofs.LeadingMarker
import FullTextSearch.Proofs.Leniency
import FullTextSearch.Proofs.LiteralExtent
import FullTextSearch.Proofs.LiteralScan
import FullTextSearch.Proofs.Negation
import FullTextSearch.Proofs.OrderEntries
import FullTextSearch.Proofs.OrderPass
import FullTextSearch.Proofs.Refusal
import FullTextSearch.Proofs.Rendering
import FullTextSearch.Proofs.ResolvedClauses
import FullTextSearch.Proofs.Rounding
import FullTextSearch.Proofs.Scanning
import FullTextSearch.Proofs.SharedCompilation
import FullTextSearch.Proofs.StatementTemplate
import FullTextSearch.Proofs.Template
import FullTextSearch.Proofs.Weights
import FullTextSearch.Proofs.Words
import FullTextSearch.Proofs.WrittenValues
import FullTextSearch.Query.Compiled
import FullTextSearch.Query.Render
import FullTextSearch.Rank.Expression
import FullTextSearch.Rank.Options
import FullTextSearch.Rank.Reading
import FullTextSearch.Search.Assembly
import FullTextSearch.Search.Options
import FullTextSearch.Settings
import FullTextSearch.Settings.EnvFile
import FullTextSearch.Settings.Reference
import FullTextSearch.Sql.Headline
import FullTextSearch.Sql.Ordering
import FullTextSearch.Sql.Predicate
import FullTextSearch.Sql.Statement
import FullTextSearch.Text.Blank
import FullTextSearch.Text.Case
import FullTextSearch.Text.LetterTable
import FullTextSearch.Text.Printable
import FullTextSearch.Text.Quoted
import FullTextSearch.Token
import FullTextSearch.Token.Kind
import FullTextSearch.Token.Scan
import FullTextSearch.Value
import FullTextSearch.Value.Coercion
import FullTextSearch.Value.Display
import FullTextSearch.Value.Json
import FullTextSearch.Value.Standard

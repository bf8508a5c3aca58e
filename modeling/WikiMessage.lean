import WikiMessage.Main
import WikiMessage.Numeral.Double.Single
import WikiMessage.Proofs.Text.Repetition
import WikiMessage.Proofs.Markup.Lexical
import WikiMessage.Proofs.Markup.Constructs
import WikiMessage.Proofs.Markup.Depth
import WikiMessage.Proofs.Markup.Failure
import WikiMessage.Proofs.Markup.Produced
import WikiMessage.Proofs.Markup.Sanitized
import WikiMessage.Proofs.Evaluation.Outcome
import WikiMessage.Proofs.Markup.Allowed
import WikiMessage.Proofs.Markup.RoundTrip
import WikiMessage.Proofs.Text.Ascii
import WikiMessage.Proofs.Text.Cluster
import WikiMessage.Proofs.Text.Reference
import WikiMessage.Proofs.Markup.SafeMarkup
import WikiMessage.Proofs.Inflection.Safe
import WikiMessage.Proofs.Number.Decimal
import WikiMessage.Proofs.Number.Format
import WikiMessage.Proofs.Operation.Safe
import WikiMessage.Proofs.Evaluation.Safe
import WikiMessage.Proofs.Localizer.Session
import WikiMessage.Proofs.Localizer.Cache
import WikiMessage.Proofs.Catalog.Log
import WikiMessage.Proofs.Locale.Normal
import WikiMessage.Proofs.Localizer.Message
import WikiMessage.Proofs.Localizer.Safe
import WikiMessage.Proofs.Locale.Plain
import WikiMessage.Proofs.Catalog.WellFormed
import WikiMessage.Proofs.Localizer.Loaded
import WikiMessage.Proofs.Catalog.Entries
import WikiMessage.Proofs.Catalog.Path
import WikiMessage.Proofs.Report.Check
import WikiMessage.Proofs.Number.ReadBack
import WikiMessage.Proofs.Localizer.Direct
import WikiMessage.Proofs.Operation.Address
import WikiMessage.Proofs.Evaluation.Wrapped
import WikiMessage.Proofs.Markup.Enclosed
import WikiMessage.Proofs.Numeral.Distinct
import WikiMessage.Proofs.Plural.Selection
import WikiMessage.Proofs.Plural.Exact
import WikiMessage.Proofs.Locale.Identifier
import WikiMessage.Proofs.Number.Negative
import WikiMessage.Proofs.Catalog.Table
import WikiMessage.Proofs.Markup.Links
import WikiMessage.Proofs.Markup.Brackets
import WikiMessage.Proofs.Markup.Html
import WikiMessage.Proofs.Markup.Ordinary
import WikiMessage.Proofs.Evaluation.Again
import WikiMessage.Proofs.Number.EitherScript
import WikiMessage.Proofs.Text.SmallLetters
import WikiMessage.Proofs.Text.EditDistance
import WikiMessage.Proofs.Operation.Suggestion
import WikiMessage.Proofs.Operation.Registration
import WikiMessage.Proofs.Markup.Neighbours
import WikiMessage.Proofs.Report.Position
import WikiMessage.Proofs.Report.Coverage
import WikiMessage.Proofs.Numeral.Signed
import WikiMessage.Proofs.Report.Parameter
import WikiMessage.Proofs.Inflection.Ending
import WikiMessage.Proofs.Inflection.Latin
import WikiMessage.Proofs.Text.Occurrence
import WikiMessage.Proofs.Markup.Surroundings
import WikiMessage.Proofs.Evaluation.Joined
import WikiMessage.Proofs.Evaluation.Placeholder
import WikiMessage.Proofs.Markup.Progress

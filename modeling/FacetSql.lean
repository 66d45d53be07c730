import FacetSql.Answer.Lemmas
import FacetSql.Heading.Lemmas
import FacetSql.Json.Lemmas
import FacetSql.Main
import FacetSql.Table.Lemmas
import FacetSql.Proofs.Heading.FreeName
import FacetSql.Proofs.Heading.WellFormed
import FacetSql.Proofs.Heading.Indices
import FacetSql.Proofs.Answer.Conforming
import FacetSql.Proofs.Answer.Shaped
import FacetSql.Proofs.Answer.Reading
import FacetSql.Proofs.Answer.RoundTrip
import FacetSql.Proofs.Filter.Meaning
import FacetSql.Proofs.Filter.Translation
import FacetSql.Proofs.Reduction.Readable
import FacetSql.Proofs.Run.CompileSafe
import FacetSql.Proofs.Query.Selects
import FacetSql.Proofs.Request.Sendable
import FacetSql.Proofs.Request.Sources
import FacetSql.Proofs.Run.Explained
import FacetSql.Proofs.Answer.Filled
import FacetSql.Proofs.Table.Sound
import FacetSql.Proofs.Reduction.Reduced
import FacetSql.Proofs.Run.Stages
import FacetSql.Proofs.Query.Clauses
import FacetSql.Proofs.Run.Honoured
import FacetSql.Proofs.Answer.Sent
import FacetSql.Proofs.Answer.Siblings
import FacetSql.Proofs.Session.SearchUrl
import FacetSql.Proofs.Run.PushedDown
import FacetSql.Proofs.Session.Address
import FacetSql.Proofs.Numeral.Line
import FacetSql.Proofs.Numeral.Nearest
import FacetSql.Proofs.Cell.Ordered
import FacetSql.Proofs.Table.Stable
import FacetSql.Proofs.Reduction.Extreme
import FacetSql.Proofs.Answer.Accepted
import FacetSql.Reduction.Lemmas
import FacetSql.Proofs.Reduction.Alone
import FacetSql.Proofs.Reduction.Grouped
import FacetSql.Proofs.Reduction.Ordinals
import FacetSql.Proofs.Run.Distinct
import FacetSql.Proofs.Reduction.Nested
import FacetSql.Proofs.Numeral.Grammar
import FacetSql.Proofs.Reduction.LeastSquares
import FacetSql.Proofs.Span.Grammar
import FacetSql.Proofs.Span.Offset
import FacetSql.Proofs.Decimal.Truncated
import FacetSql.Proofs.Request.Histograms
import FacetSql.Proofs.Query.Clock
import FacetSql.Proofs.Filter.Pattern
import FacetSql.Proofs.Filter.Constants
import FacetSql.Proofs.Numeral.Overflow
import FacetSql.Proofs.Numeral.Decimal
import FacetSql.Proofs.Request.Chain
import FacetSql.Proofs.Request.Encoded
import FacetSql.Proofs.Request.ByKeys
import FacetSql.Proofs.Run.Flattened
import FacetSql.Proofs.Query.Resolved
import FacetSql.Proofs.Filter.Signed
import FacetSql.Proofs.Answer.Integers
import FacetSql.Proofs.Table.Traversed

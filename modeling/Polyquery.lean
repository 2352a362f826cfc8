import Polyquery.Adapter
import Polyquery.Json.Reader
import Polyquery.Main
import Polyquery.Proofs.OData.Leaf
import Polyquery.Proofs.OData.Written
import Polyquery.Proofs.TextPattern
import Polyquery.Query.ByClosure
import Polyquery.Query.Document
import Polyquery.Proofs.FrontEnds.Formula
import Polyquery.Proofs.OData.RoundTrip
import Polyquery.Proofs.Sql.StringLiteral
import Polyquery.Proofs.FrontEnds.ClosureReading
import Polyquery.Proofs.FrontEnds.SqlReading
import Polyquery.Proofs.FrontEnds.OptionReading
import Polyquery.Proofs.FrontEnds.Agreement
import Polyquery.Proofs.OData.OptionValue
import Polyquery.Proofs.OData.ClauseReading
import Polyquery.Proofs.OData.AppliedOptions
import Polyquery.Proofs.OData.Expressible
import Polyquery.Proofs.OData.QueryRoundTrip
import Polyquery.Proofs.Sql.Spelling
import Polyquery.Proofs.Sql.Following
import Polyquery.Proofs.Sql.Naming
import Polyquery.Proofs.Sql.Climbing
import Polyquery.Proofs.Sql.Forming
import Polyquery.Proofs.Sql.Printing
import Polyquery.Proofs.Sql.RoundTrip
import Polyquery.Proofs.Sql.Grouping
import Polyquery.Proofs.OData.Grouping
import Polyquery.Proofs.Number.Rounding
import Polyquery.Proofs.Number.Shortest
import Polyquery.Proofs.Number.Numeral
import Polyquery.Proofs.Number.Layout
import Polyquery.Proofs.Sql.Truth
import Polyquery.Proofs.Sql.WrittenValue
import Polyquery.Proofs.Sql.NullSemantics
import Polyquery.Proofs.Query.Calls
import Polyquery.Proofs.Query.FilterMeaning
import Polyquery.Proofs.Expr.Document
import Polyquery.Proofs.OData.FailingCalls
import Polyquery.Proofs.Sql.Vetted
import Polyquery.Proofs.Sql.Quoting
import Polyquery.Proofs.OData.Depth
import Polyquery.Proofs.OData.Places
import Polyquery.Proofs.OData.FaultPlaces
import Polyquery.Proofs.OData.Spaced
import Polyquery.Proofs.OData.Precedence
import Polyquery.Proofs.RegexSearch
import Polyquery.Proofs.Sql.LikePattern
import Polyquery.Proofs.OData.Siblings
import Polyquery.Proofs.OData.RegularNodes
import Polyquery.Proofs.Expr.Equality
import Polyquery.Proofs.OData.Merging
import Polyquery.Proofs.OData.MergeOrder
import Polyquery.Proofs.OData.MergedOptions
import Polyquery.Proofs.OData.OptionOrder
import Polyquery.Proofs.FrontEnds.SelectList
import Polyquery.Proofs.Query.ProjectionDocument
import Polyquery.Proofs.Sql.PageReading
import Polyquery.Proofs.Sql.PagingClause
import Polyquery.Proofs.Sql.TextReading
import Polyquery.Proofs.FrontEnds.Integers
import Polyquery.Proofs.Sql.ComparedNames
import Polyquery.Proofs.Sql.SqliteText
import Polyquery.Proofs.Sql.TextTests
import Polyquery.Proofs.OData.Locality
import Polyquery.Proofs.OData.Renaming
import Polyquery.Proofs.FrontEnds.ChainedComparison
import Polyquery.Proofs.Query.ClosureScope
import Polyquery.Proofs.FrontEnds.TextParts

import Listing.Action
import Listing.Assembly
import Listing.Choice
import Listing.Config.Basic
import Listing.Config.FilterType
import Listing.Document
import Listing.Error
import Listing.Event
import Listing.Filter.Kind
import Listing.Filter.Operator
import Listing.Filter.Param
import Listing.Filter.Token
import Listing.Item
import Listing.Json.Basic
import Listing.Json.Reader
import Listing.Json.Writer
import Listing.Memory.Compare
import Listing.Memory.Predicate
import Listing.Memory.Source
import Listing.Number.Binary64
import Listing.Number.Layout
import Listing.Number.Reader
import Listing.Number.Rounding
import Listing.Number.Scaling
import Listing.Number.Shortest
import Listing.Paging
import Listing.Query.Basic
import Listing.Query.Parameter
import Listing.Query.Validation
import Listing.Relational.Condition
import Listing.Relational.Database
import Listing.Relational.Source
import Listing.Remote.Client
import Listing.Remote.Source
import Listing.Request
import Listing.Response
import Listing.Schema.Documentation
import Listing.Schema.Reading
import Listing.Sorting
import Listing.Source
import Listing.Sql.Expr
import Listing.Sql.Select
import Listing.Text.Blank
import Listing.Text.CaseTable
import Listing.Text.HiddenTable
import Listing.Text.Lowercase
import Listing.Text.Numeral
import Listing.Text.Quoted
import Listing.Text.Ranges
import Listing.Text.Split
import Listing.Text.Truth
import Listing.Url.Form
import Listing.Url.Target
import Listing.Url.Utf8
import Listing.Validation.Rule
import Listing.Validation.Validator
import Listing.Violation
import Listing.Proofs.Lockstep
import Listing.Proofs.Trace
import Listing.Proofs.Lifecycle
import Listing.Proofs.Rules
import Listing.Proofs.Results
import Listing.Proofs.Serving
import Listing.Proofs.Order
import Listing.Proofs.Forms
import Listing.Proofs.Magnitudes
import Listing.Proofs.Meaning
import Listing.Proofs.Navigation
import Listing.Proofs.Arrangement
import Listing.Proofs.Narrowing
import Listing.Proofs.PageWalk
import Listing.Proofs.SqlTruth
import Listing.Proofs.Agreement
import Listing.Proofs.Scanning
import Listing.Proofs.Spelling
import Listing.Proofs.Parameterised
import Listing.Proofs.Separation
import Listing.Proofs.Windows
import Listing.Proofs.Account
import Listing.Proofs.TableQueries
import Listing.Proofs.Patterns
import Listing.Proofs.Casing
import Listing.Proofs.Integers
import Listing.Proofs.Brackets
import Listing.Proofs.Addresses
import Listing.Proofs.Entries
import Listing.Proofs.Offsets
import Listing.Proofs.Opposites
import Listing.Proofs.Segments
import Listing.Proofs.Failures
import Listing.Proofs.Disclosure
import Listing.Proofs.RuleStrings
import Listing.Proofs.Decoding
import Listing.Proofs.Documents
import Listing.Proofs.Bounds
import Listing.Proofs.KeyForms

import CardQuery.Main
import CardQuery.Proofs.Token.Query
import CardQuery.Proofs.Token.Cover
import CardQuery.Proofs.Token.Result
import CardQuery.Proofs.Predicate.Structure
import CardQuery.Proofs.Predicate.Text
import CardQuery.Proofs.Search.Conjunction
import CardQuery.Proofs.Regex.Whole
import CardQuery.Proofs.Search.Failure
import CardQuery.Proofs.Store.Agreement
import CardQuery.Proofs.Number.Exact
import CardQuery.Proofs.Store.Order
import CardQuery.Proofs.Store.Ranking
import CardQuery.Proofs.Search.Pages
import CardQuery.Proofs.Search.Keys
import CardQuery.Proofs.Lookup
import CardQuery.Proofs.Meaning
import CardQuery.Proofs.Parts
import CardQuery.Proofs.Letters
import CardQuery.Proofs.LetterCase
import CardQuery.Proofs.Search.Account
import CardQuery.Proofs.Comparison
import CardQuery.Proofs.Number.Whole
import CardQuery.Proofs.Filtering
import CardQuery.Proofs.Unicode.Digit
import CardQuery.Proofs.Letters.Lattice
import CardQuery.Proofs.Letters.Count
import CardQuery.Proofs.HalfNumber.Notation
import CardQuery.Proofs.HalfNumber.Ladder
import CardQuery.Proofs.HalfNumber.Comparison
import CardQuery.Proofs.Template.Captures
import CardQuery.Proofs.Number.Comparison
import CardQuery.Proofs.Predicate.Sole
import CardQuery.Proofs.Predicate.Occurrence
import CardQuery.Proofs.Store.Offset
import CardQuery.Proofs.Predicate.NormalForm
import CardQuery.Proofs.Predicate.Operands
import CardQuery.Proofs.Search.WholeText
import CardQuery.Proofs.Store.Limit
import CardQuery.Proofs.Predicate.Locality
import CardQuery.Proofs.Search.Explanation
import CardQuery.Proofs.Catalog.Interpolation
import CardQuery.Proofs.Search.Targets
import CardQuery.Proofs.Predicate.Implication
import CardQuery.Proofs.Search.Strictness
import CardQuery.Proofs.Predicate.Document
import CardQuery.Proofs.HalfNumber.Labels
import CardQuery.Proofs.Catalog.Leaves
import CardQuery.Proofs.Template.Order
import CardQuery.Proofs.Template.Pattern
import CardQuery.Proofs.Letters.Inverse

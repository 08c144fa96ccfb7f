import BoundQuery.Query.Session
import BoundQuery.Query.Source
import BoundQuery.Sql.Generation
import BoundQuery.Proofs.Sql.Lexeme
import BoundQuery.Proofs.Sql.Writing
import BoundQuery.Proofs.Sql.WellFormed
import BoundQuery.Proofs.Sql.Outline
import BoundQuery.Proofs.Sql.Alignment
import BoundQuery.Proofs.Sql.Masking
import BoundQuery.Proofs.Sql.ReadBack
import BoundQuery.Proofs.Sql.Guarded
import BoundQuery.Proofs.Fragment.TextTree
import BoundQuery.Proofs.Sql.Grouping
import BoundQuery.Proofs.Sql.FirstFault
import BoundQuery.Proofs.Query.Independence
import BoundQuery.Proofs.Recording.Sound
import BoundQuery.Proofs.Fragment.Accepted
import BoundQuery.Proofs.Fragment.Agreement
import BoundQuery.Proofs.Fragment.Qualified
import BoundQuery.Proofs.Fragment.Image
import BoundQuery.Proofs.Fragment.Vocabulary
import BoundQuery.Proofs.Query.History
import BoundQuery.Proofs.Sql.Matching
import BoundQuery.Proofs.Query.Counting
import BoundQuery.Proofs.Fragment.Lambda
import BoundQuery.Proofs.Fragment.Referring
import BoundQuery.Proofs.Fragment.Constants
import BoundQuery.Proofs.Fragment.Conditions
import BoundQuery.Proofs.Query.Combining
import BoundQuery.Proofs.Query.HigherLimits
import BoundQuery.Proofs.Fragment.Columns
import BoundQuery.Proofs.Fragment.Display
import BoundQuery.Proofs.Fragment.SingleField
import BoundQuery.Proofs.Fragment.Splitting
import BoundQuery.Proofs.Query.Paging
import BoundQuery.Proofs.Tree.Equality
import BoundQuery.Proofs.Sql.Congruence
import BoundQuery.Proofs.Sql.Appending
import BoundQuery.Proofs.Fragment.Attribution
import BoundQuery.Proofs.Schema.RoundTrip

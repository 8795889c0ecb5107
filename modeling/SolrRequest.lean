import SolrRequest.Main
import SolrRequest.Proofs.Document.Invariance
import SolrRequest.Proofs.Document.Tree
import SolrRequest.Proofs.Fragment.Boost
import SolrRequest.Proofs.Fragment.Bounds
import SolrRequest.Proofs.Fragment.Joining
import SolrRequest.Proofs.Fragment.Noninterference
import SolrRequest.Proofs.Fragment.Unambiguous
import SolrRequest.Proofs.Request.Built
import SolrRequest.Proofs.Request.Names
import SolrRequest.Proofs.Request.Renaming
import SolrRequest.Proofs.Request.Resending
import SolrRequest.Proofs.Request.Stepwise
import SolrRequest.Proofs.Request.Strictness
import SolrRequest.Text.Percent
import SolrRequest.Proofs.Fragment.CallTree
import SolrRequest.Proofs.Query.BuiltFunction
import SolrRequest.Proofs.Text.Escape
import SolrRequest.Proofs.Number.Rounding
import SolrRequest.Proofs.Fragment.Distance
import SolrRequest.Proofs.Request.History
import SolrRequest.Proofs.Request.JsonView
import SolrRequest.Proofs.Request.QueryString
import SolrRequest.Proofs.Document.ScalarTexts
import SolrRequest.Proofs.Fragment.Range
import SolrRequest.Proofs.Mapping
import SolrRequest.Proofs.Number.ReadingBack
import SolrRequest.Proofs.Number.Fewest

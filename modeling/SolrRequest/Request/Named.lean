import SolrRequest.Error
import SolrRequest.Query.Basic
import SolrRequest.Text.Whitespace

/-!
# Named objects of a query

Grouped results come back under the text of the function or query that they are grouped by. A query
with names keeps the function or query that each text stands for. Naming changes nothing in the
query; a name given twice stands for the last object.
-/

namespace SolrRequest

/-- What a group of results belongs to. -/
inductive NamedObject where
  | function (f : FunctionQuery)
  | query (q : Query)

/-- A query with objects under names. -/
structure NamedQuery where
  query : Query
  names : Table NamedObject

namespace NamedQuery

/-- A query without names. -/
def of (q : Query) : NamedQuery := ⟨q, []⟩

/-- Puts an object under a name, which must not be blank. -/
def assign (n : NamedQuery) (name : String) (object : NamedObject) : Except Error NamedQuery :=
  if Text.isBlank name then throw .blankName
  else return { n with names := n.names.insert name object }

def get? (n : NamedQuery) (name : String) : Option NamedObject :=
  Table.get? n.names name

end NamedQuery

end SolrRequest

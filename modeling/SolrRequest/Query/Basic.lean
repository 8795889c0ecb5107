import SolrRequest.Field
import SolrRequest.Operation
import SolrRequest.Value

/-!
# Queries

A query has a tree of criteria and everything that travels with it: filters, projected and
calculated fields, sorting, paging, grouping and faceting.

* A *criteria* is a chain of predicates on one field, possibly negated and boosted.
* A *node* of the tree is a criteria, a raw query text, or a group of clauses.
* A *function query* names an operation and its arguments, which may again be nodes or queries.

The types refer to each other, so they are defined together.
-/

namespace SolrRequest

open Number

/-- The bounds of a range; a missing bound leaves that side open. -/
structure ValueRange where
  lower : Option Value
  upper : Option Value
  includeLower : Bool
  includeUpper : Bool
deriving Repr, DecidableEq, BEq

/-- An area around a point, or a box. -/
inductive GeoShape where
  | circle (center : Point) (distance : Distance)
  | box (bounds : GeoBox)
deriving Repr, DecidableEq

/-- How a clause is linked to the clause before it. -/
inductive Junction where
  | and
  | or
deriving Repr, DecidableEq

/-- The operator between the terms of a query text. -/
inductive Operator where
  | and
  | or
deriving Repr, DecidableEq

/-- The direction of a sort. -/
inductive Direction where
  | ascending
  | descending
deriving Repr, DecidableEq

/-- A field to sort by. -/
structure SortOrder where
  field : Field
  direction : Direction
deriving Repr, DecidableEq

/-- Fields to sort by, the most significant first. -/
abbrev Sorting := List SortOrder

/-- How facet values are sorted. -/
inductive FacetSort where
  | count
  | index
deriving Repr, DecidableEq

mutual

/-- A call of a function; an absent list of arguments counts as an empty one. -/
structure FunctionQuery where
  operation : String
  arguments : Option (List Argument)

/-- An argument of a function query. -/
inductive Argument where
  | value (v : Value)
  | field (f : Field)
  | function (f : FunctionQuery)
  | criteria (n : Node)
  | query (q : Query)

/-- What a predicate compares with. -/
inductive Payload where
  | null
  | single (v : Value)
  | range (r : ValueRange)
  | geo (g : GeoShape)
  | fuzzy (term : Value) (similarity : Option Single)
  | sloppy (phrase : Value) (slop : UInt32)
  | function (f : FunctionQuery)

/-- A condition: a key and a payload. -/
structure Predicate where
  key : Option PredicateKey
  payload : Payload

/-- A chain of predicates on a field, or on none. -/
structure Criteria where
  field : Option Field
  predicates : List Predicate
  negating : Bool
  boost : Option Single

/-- A node of the tree of criteria. -/
inductive Node where
  | criteria (c : Criteria)
  | raw (query : String)
  | group (g : ClauseGroup)

/-- A node with the link to the clause before it. -/
structure Clause where
  junction : Junction
  node : Node

/-- Clauses in order. A *chained* group has been made by joining nodes, and joining goes on in it;
any other group keeps a precedence of its own. -/
structure ClauseGroup where
  clauses : List Clause
  negating : Bool
  chained : Bool

/-- A column computed by a function. -/
structure CalculatedField where
  outputName : Option String
  function : FunctionQuery

/-- How results are grouped. -/
structure GroupOptions where
  fields : List Field
  functions : List FunctionQuery
  queries : List Query
  limit : Option Int32
  offset : Option UInt32
  sort : Sorting
  totalCount : Bool
  main : Bool
  facets : Bool
  truncate : Bool
  cachePercent : UInt8

/-- Which values and queries are counted. -/
structure FacetOptions where
  fields : List Field
  queries : List Node
  limit : UInt32
  minCount : UInt32
  sort : FacetSort
  startingWith : Option String
  offset : Option UInt32
  missing : Bool

/-- A query with all that travels with it. -/
structure Query where
  criteria : Node
  filters : List Node
  projection : List Field
  calculated : List CalculatedField
  sort : Sorting
  offset : Option UInt64
  rows : Option UInt32
  groupOptions : Option GroupOptions
  facetOptions : Option FacetOptions
  operator : Option Operator
  defType : Option String
  handler : Option String
  timeAllowed : Option UInt32

end

/-! ## Texts -/

/-- The text between two clauses. -/
def Junction.separator : Junction → String
  | .and => " AND "
  | .or => " OR "

def Operator.text : Operator → String
  | .and => "AND"
  | .or => "OR"

def Direction.text : Direction → String
  | .ascending => "asc"
  | .descending => "desc"

def FacetSort.text : FacetSort → String
  | .count => "count"
  | .index => "index"

/-! ## Defaults -/

/-- The range without bounds. -/
def ValueRange.unbounded : ValueRange := ⟨none, none, true, true⟩

/-- A criteria without field, predicates, negation and boost. -/
def Criteria.empty : Criteria := ⟨none, [], false, none⟩

/-- A group without clauses. -/
def ClauseGroup.empty : ClauseGroup := ⟨[], false, false⟩

/-- The node that matches everything: a group without clauses. -/
def Node.empty : Node := .group .empty

/-- Grouping by nothing yet. -/
def GroupOptions.default : GroupOptions where
  fields := []
  functions := []
  queries := []
  limit := none
  offset := none
  sort := []
  totalCount := false
  main := false
  facets := false
  truncate := false
  cachePercent := 0

/-- Faceting on nothing yet: at most ten values each, found at least once, the most frequent
first. -/
def FacetOptions.default : FacetOptions where
  fields := []
  queries := []
  limit := 10
  minCount := 1
  sort := .count
  startingWith := none
  offset := none
  missing := false

/-- The query for everything. -/
def Query.default : Query where
  criteria := .empty
  filters := []
  projection := []
  calculated := []
  sort := []
  offset := none
  rows := none
  groupOptions := none
  facetOptions := none
  operator := none
  defType := none
  handler := none
  timeAllowed := none

/-! ## Views -/

/-- The name of the shape of a payload. -/
def Payload.shape : Payload → String
  | .null => "null"
  | .single _ => "single"
  | .range _ => "range"
  | .geo _ => "geo"
  | .fuzzy _ _ => "fuzzy"
  | .sloppy _ _ => "sloppy"
  | .function _ => "function"

/-- A payload with a null in place of what is looked for; its predicate is left out. -/
def Payload.isNull : Payload → Bool
  | .null => true
  | .single v => v.isNull
  | .fuzzy term _ => term.isNull
  | .sloppy phrase _ => phrase.isNull
  | .range _ => false
  | .geo _ => false
  | .function _ => false

/-- The payload of a single value; a null value gives the null payload. -/
def Payload.ofValue (v : Value) : Payload :=
  if v.isNull then .null else .single v

/-- The known operation of a predicate. -/
def Predicate.operation? (p : Predicate) : Option Operation :=
  p.key.bind (·.operation?)

/-- The key of a predicate as errors show it. -/
def Predicate.keyText (p : Predicate) : String :=
  (p.key.map (·.text)).getD "null"

def FunctionQuery.args (f : FunctionQuery) : List Argument :=
  f.arguments.getD []

def FunctionQuery.hasArguments (f : FunctionQuery) : Bool :=
  !f.args.isEmpty

def Argument.isNull : Argument → Bool
  | .value v => v.isNull
  | _ => false

/-- The name given to a calculated field, unless it is blank. -/
def CalculatedField.shownName (c : CalculatedField) : Option String :=
  c.outputName.filter fun name => !Text.isBlank name

/-- There is something to group by. -/
def GroupOptions.hasGroups (g : GroupOptions) : Bool :=
  !(g.fields.isEmpty && g.functions.isEmpty && g.queries.isEmpty)

/-- There is something to count. -/
def FacetOptions.hasFacets (o : FacetOptions) : Bool :=
  !(o.fields.isEmpty && o.queries.isEmpty)

/-- The text that counted values start with, unless it is empty. -/
def FacetOptions.shownStart (o : FacetOptions) : Option String :=
  o.startingWith.filter fun s => !s.isEmpty

end SolrRequest

import SolrRequest.Query.Node

/-!
# Building queries and their options

Sorting, grouping, faceting and the query itself are built step by step. Bounds are checked by the
builders, and again by `Query.check` for queries that were read from a document.
-/

namespace SolrRequest

/-! ## Sorting -/

namespace Sorting

/-- The sorting with one more field, the least significant one. -/
def andThen (s : Sorting) (field : String) (direction : Direction) : Except Error Sorting := do
  return s ++ [⟨← Field.named field, direction⟩]

def of (field : String) (direction : Direction) : Except Error Sorting :=
  andThen [] field direction

end Sorting

/-! ## Grouping -/

/-- Refuses a group limit below -1, which stands for all documents. -/
def checkGroupLimit (limit : Int32) : Except Error Unit :=
  if limit < -1 then throw .groupLimitTooSmall else pure ()

/-- Refuses more than a hundred percent. -/
def checkCachePercent (percent : UInt8) : Except Error Unit :=
  if 100 < percent then throw .cachePercentTooLarge else pure ()

namespace GroupOptions

def byField (g : GroupOptions) (name : String) : Except Error GroupOptions := do
  return { g with fields := g.fields ++ [← Field.named name] }

def byFunction (g : GroupOptions) (f : FunctionQuery) : GroupOptions :=
  { g with functions := g.functions ++ [f] }

def byQuery (g : GroupOptions) (q : Query) : GroupOptions :=
  { g with queries := g.queries ++ [q] }

/-- How many documents each group shows; all of them for -1. -/
def withLimit (g : GroupOptions) (limit : Int32) : Except Error GroupOptions := do
  checkGroupLimit limit
  return { g with limit := some limit }

def withOffset (g : GroupOptions) (offset : UInt32) : GroupOptions :=
  { g with offset := some offset }

def withSort (g : GroupOptions) (sort : Sorting) : GroupOptions :=
  { g with sort := g.sort ++ sort }

def withTotalCount (g : GroupOptions) (on : Bool) : GroupOptions :=
  { g with totalCount := on }

def withMain (g : GroupOptions) (on : Bool) : GroupOptions :=
  { g with main := on }

def withFacets (g : GroupOptions) (on : Bool) : GroupOptions :=
  { g with facets := on }

def withTruncate (g : GroupOptions) (on : Bool) : GroupOptions :=
  { g with truncate := on }

def withCachePercent (g : GroupOptions) (percent : UInt8) : Except Error GroupOptions := do
  checkCachePercent percent
  return { g with cachePercent := percent }

end GroupOptions

/-! ## Faceting -/

namespace FacetOptions

def onField (o : FacetOptions) (name : String) : Except Error FacetOptions := do
  return { o with fields := o.fields ++ [← Field.named name] }

def onQuery (o : FacetOptions) (query : Node) : FacetOptions :=
  { o with queries := o.queries ++ [query] }

def withLimit (o : FacetOptions) (limit : UInt32) : FacetOptions :=
  { o with limit := limit }

def withMinCount (o : FacetOptions) (count : UInt32) : FacetOptions :=
  { o with minCount := count }

def withSort (o : FacetOptions) (sort : FacetSort) : FacetOptions :=
  { o with sort := sort }

def withStart (o : FacetOptions) (start : String) : FacetOptions :=
  { o with startingWith := some start }

def withOffset (o : FacetOptions) (offset : UInt32) : FacetOptions :=
  { o with offset := some offset }

def withMissing (o : FacetOptions) (on : Bool) : FacetOptions :=
  { o with missing := on }

end FacetOptions

/-- The count that an index reports for one facet query. -/
structure FacetCount where
  query : String
  count : UInt64
deriving Repr, DecidableEq

/-! ## Queries -/

/-- Refuses a page without rows. -/
def checkRows (rows : UInt32) : Except Error Unit :=
  if rows = 0 then throw .emptyPage else pure ()

namespace Query

/-- The query for a tree of criteria. -/
def of (criteria : Node) : Query :=
  { Query.default with criteria := criteria }

/-- The query with a further tree of criteria: it replaces an empty one, and is joined to any
other. -/
def withCriteria (q : Query) (criteria : Node) : Query :=
  match q.criteria with
  | .group ⟨[], false, _⟩ => { q with criteria := criteria }
  | current => { q with criteria := current.and criteria }

def withFilter (q : Query) (filter : Node) : Query :=
  { q with filters := q.filters ++ [filter] }

def withProjection (q : Query) (name : String) : Except Error Query := do
  return { q with projection := q.projection ++ [← Field.named name] }

def withCalculated (q : Query) (c : CalculatedField) : Query :=
  { q with calculated := q.calculated ++ [c] }

def withSort (q : Query) (sort : Sorting) : Query :=
  { q with sort := q.sort ++ sort }

def withPage (q : Query) (offset : UInt64) (rows : UInt32) : Except Error Query := do
  checkRows rows
  return { q with offset := some offset, rows := some rows }

def withRows (q : Query) (rows : UInt32) : Except Error Query := do
  checkRows rows
  return { q with rows := some rows }

def withGroupOptions (q : Query) (options : GroupOptions) : Query :=
  { q with groupOptions := some options }

def withFacetOptions (q : Query) (options : FacetOptions) : Query :=
  { q with facetOptions := some options }

def withOperator (q : Query) (operator : Operator) : Query :=
  { q with operator := some operator }

def withDefType (q : Query) (defType : String) : Query :=
  { q with defType := some defType }

def withHandler (q : Query) (handler : String) : Query :=
  { q with handler := some handler }

def withTimeAllowed (q : Query) (millis : UInt32) : Query :=
  { q with timeAllowed := some millis }

end Query

/-- The query for the documents that a facet query counted. -/
def FacetCount.toQuery (c : FacetCount) : Query :=
  .of (.raw c.query)

/-! ## Bounds of queries -/

mutual

/-- Checks the page size and the bounds of the options, also those of the queries to group by. -/
def Query.check : Query → Except Error Unit
  | { rows := rows, groupOptions := options, .. } => do
    match rows with
    | some rows => checkRows rows
    | none => pure ()
    Query.checkGroupOptions options

def Query.checkGroupOptions : Option GroupOptions → Except Error Unit
  | none => pure ()
  | some options => options.check

/-- Checks the limit, the cache size and the queries to group by. -/
def GroupOptions.check : GroupOptions → Except Error Unit
  | { limit := limit, cachePercent := percent, queries := queries, .. } => do
    match limit with
    | some limit => checkGroupLimit limit
    | none => pure ()
    checkCachePercent percent
    GroupOptions.checkQueries queries

def GroupOptions.checkQueries : List Query → Except Error Unit
  | [] => pure ()
  | q :: r => do
    q.check
    GroupOptions.checkQueries r

end

end SolrRequest

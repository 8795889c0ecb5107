import SolrRequest.Fragment.Render
import SolrRequest.Query.Options
import SolrRequest.Request.Named
import SolrRequest.Request.Params

/-!
# Compiling queries

A query becomes a request by sections: each writes its own parameters from its own part of the
query, and none looks at another. The request holds the entries of the sections in the order of
`Section.all`; the first section that fails decides the error. With the parameters goes a table of
the functions and queries that results are grouped by, under the texts that stand for them.
-/

namespace SolrRequest

open Text

/-- Parameters in order. -/
abbrev Entries := List (String × String)

/-- The parts of a request. -/
inductive Section where
  | query
  | filters
  | fields
  | sort
  | start
  | rows
  | operator
  | defType
  | handler
  | timeAllowed
  | group
  | facet
deriving Repr, DecidableEq

namespace Section

/-- The sections in the order in which they are written. -/
def all : List Section :=
  [query, filters, fields, sort, start, rows, operator, defType, handler, timeAllowed, group,
    facet]

end Section

/-! ## Single parameters -/

/-- The parameter of an optional value. -/
def optionEntry {α : Type} (name : String) (text : α → String) : Option α → Entries
  | none => []
  | some a => [(name, text a)]

/-- The parameter of a switch, which is written only when it is on. -/
def switchEntry (name : String) (on : Bool) : Entries :=
  if on then [(name, "true")] else []

/-- The field and the direction of a sort. -/
def SortOrder.text (s : Scope) (o : SortOrder) : Except Error String := do
  return (← s.fieldName o.field) ++ " " ++ o.direction.text

/-- The parameter of a sorting, if there is something to sort by. -/
def sortEntries (s : Scope) (name : String) (sort : Sorting) : Except Error Entries := do
  let orders ← sort.mapM (SortOrder.text s)
  return if orders.isEmpty then [] else [(name, ",".intercalate orders)]

/-! ## Sections of a query -/

/-- One parameter for each filter that is written. -/
def filterEntries (s : Scope) (filters : List Node) : Except Error Entries := do
  let texts ← filters.mapM fun n => n.fragment s false
  return (texts.filterMap id).map fun text => ("fq", text)

/-- The projected fields and the calculated ones in one parameter. -/
def fieldEntries (s : Scope) (projection : List Field) (calculated : List CalculatedField) :
    Except Error Entries := do
  let names ← projection.mapM s.fieldName
  let texts ← calculated.mapM fun c => c.fragment s
  return if (names ++ texts).isEmpty then [] else [("fl", ",".intercalate (names ++ texts))]

/-- The text of a name that results are grouped by; a blank one is refused. -/
def groupName (text : String) : Except Error String :=
  if isBlank text then throw .blankName else pure text

/-- The text that stands for a function to group by. -/
def FunctionQuery.groupText (s : Scope) (f : FunctionQuery) : Except Error String := do
  groupName (← f.fragment s 0)

/-- The text that stands for a query to group by. -/
def Query.groupText (s : Scope) (q : Query) : Except Error String := do
  groupName (← q.criteria.queryText s)

/-- The texts that results are grouped by. -/
structure GroupTexts where
  fields : List String
  functions : List String
  queries : List String

/-- The texts of grouping options; there must be one at least. -/
def GroupOptions.texts (s : Scope) (g : GroupOptions) : Except Error GroupTexts := do
  if !g.hasGroups then throw .nothingToGroup
  let fields ← g.fields.mapM s.fieldName
  let functions ← g.functions.mapM fun f => f.groupText s
  let queries ← g.queries.mapM fun q => q.groupText s
  return ⟨fields, functions, queries⟩

/-- The parameters of grouping options. -/
def GroupOptions.entries (s : Scope) (g : GroupOptions) : Except Error Entries := do
  let texts ← g.texts s
  let sort ← sortEntries s "group.sort" g.sort
  return ("group", "true") ::
    (texts.fields.map (("group.field", ·)) ++ texts.functions.map (("group.func", ·)) ++
      texts.queries.map (("group.query", ·)) ++
      optionEntry "group.limit" (fun n => toString n.toInt) g.limit ++
      optionEntry "group.offset" (fun n => toString n.toNat) g.offset ++ sort ++
      switchEntry "group.ngroups" g.totalCount ++ switchEntry "group.main" g.main ++
      switchEntry "group.facet" g.facets ++ switchEntry "group.truncate" g.truncate ++
      (if g.cachePercent = 0 then []
        else [("group.cache.percent", toString g.cachePercent.toNat)]))

/-- The objects that results are grouped by, under their texts: functions, then queries. -/
def GroupOptions.named (s : Scope) (g : GroupOptions) : Except Error (Table NamedObject) := do
  let texts ← g.texts s
  return Table.ofEntries
    (texts.functions.zip (g.functions.map .function) ++ texts.queries.zip (g.queries.map .query))

/-- The parameters of faceting options, if there is something to count. -/
def FacetOptions.entries (s : Scope) (o : FacetOptions) : Except Error Entries := do
  if !o.hasFacets then return []
  let fields ← o.fields.mapM s.fieldName
  let queries ← o.queries.mapM fun n => n.queryText s
  return ("facet", "true") ::
    (fields.map (("facet.field", ·)) ++ queries.map (("facet.query", ·)) ++
      [("facet.limit", toString o.limit.toNat), ("facet.mincount", toString o.minCount.toNat),
        ("facet.sort", o.sort.text)] ++
      optionEntry "facet.prefix" id o.shownStart ++
      optionEntry "facet.offset" (fun n => toString n.toNat) o.offset ++
      switchEntry "facet.missing" o.missing)

/-- The parameters of a section, or nothing when the query has no such part. -/
def Section.entries (s : Scope) (q : Query) : Section → Except Error Entries
  | .query => do return [("q", ← q.criteria.queryText s)]
  | .filters => filterEntries s q.filters
  | .fields => fieldEntries s q.projection q.calculated
  | .sort => sortEntries s "sort" q.sort
  | .start => pure (optionEntry "start" (fun n => toString n.toNat) q.offset)
  | .rows =>
    pure (optionEntry "rows" (fun n => toString n.toNat)
      (q.rows.or s.compiler.configuration.defaultRows))
  | .operator =>
    pure (optionEntry "q.op" Operator.text
      (q.operator.or s.compiler.configuration.defaultOperator))
  | .defType => pure (optionEntry "defType" id q.defType)
  | .handler => pure (optionEntry "qt" id q.handler)
  | .timeAllowed => pure (optionEntry "timeAllowed" (fun n => toString n.toNat) q.timeAllowed)
  | .group =>
    match q.groupOptions with
    | none => pure []
    | some options => options.entries s
  | .facet =>
    match q.facetOptions with
    | none => pure []
    | some options => options.entries s

/-! ## Requests -/

/-- A compiled query: its parameters, and the objects that its results are grouped by. -/
structure Request where
  params : Params
  named : NamedQuery

/-- The objects that the results of a query are grouped by. -/
def Query.namedObjects (s : Scope) (q : Query) : Except Error (Table NamedObject) :=
  match q.groupOptions with
  | none => pure []
  | some options => options.named s

/-- Compiles a query for a domain, or for none. -/
def Compiler.compile (c : Compiler) (q : Query) (domain : Option String) :
    Except Error Request := do
  q.check
  let s : Scope := ⟨c, domain⟩
  let sections ← Section.all.mapM fun part => part.entries s q
  let names ← q.namedObjects s
  return ⟨⟨sections.flatten⟩, ⟨q, names⟩⟩

end SolrRequest

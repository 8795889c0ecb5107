import SolrRequest.Document.Scalars
import SolrRequest.Query.Options

/-!
# Documents of queries

How queries and everything in them are read from documents and written to them. The types refer to
each other, so each record has a reader that is given the readers of its parts, and
`TreeReaders.upTo` ties them together for documents nested up to a number of levels. Writing
follows the tree. A node is a tagged record; payloads and arguments are tagged contents.
-/

namespace SolrRequest

open Number

/-! ## Readers of records, given the readers of their parts -/

namespace PredicateKey

def ofDocument? : Reader PredicateKey := fun d => (Reader.string d).map ofText

def toJson (k : PredicateKey) : Json := .string k.text

end PredicateKey

namespace Payload

def fuzzyMembers : List String := ["term", "similarity"]

def sloppyMembers : List String := ["phrase", "slop"]

/-- The shapes of payloads in documents. -/
def shapes : List String := ["null", "single", "range", "geo", "fuzzy", "sloppy", "function"]

/-- Reads the content of a payload of a shape. -/
def ofContent? (function : Reader FunctionQuery) (shape : String) (content : Option Document) :
    Option Payload :=
  match shape with
  | "null" =>
    match content with
    | none => some .null
    | some ⟨.null, _⟩ => some .null
    | some _ => none
  | "single" => content.bind fun d => (Value.ofDocument? d).map single
  | "range" => content.bind fun d => (ValueRange.ofDocument? d).map range
  | "geo" => content.bind fun d => (GeoShape.ofDocument? d).map geo
  | "fuzzy" => content.bind fun d => do
    let m ← d.objectMembers? fuzzyMembers
    let term ← m.required "term" Value.ofDocument?
    let similarity ← m.withDefault "similarity" none (Reader.optional Reader.single)
    return fuzzy term similarity
  | "sloppy" => content.bind fun d => do
    let m ← d.objectMembers? sloppyMembers
    let phrase ← m.required "phrase" Value.ofDocument?
    let slop ← m.required "slop" Reader.uint32
    return sloppy phrase slop
  | "function" => content.bind fun d => (function d).map .function
  | _ => none

def reader (function : Reader FunctionQuery) : Reader Payload := fun d => do
  let (shape, content) ← d.tagged? "shape" "value" shapes
  ofContent? function shape content

end Payload

def Predicate.members : List String := ["key", "value"]

def Predicate.reader (payload : Reader Payload) : Reader Predicate := fun d => do
  let m ← d.members? Predicate.members
  let key ← m.withDefault "key" none (Reader.optional PredicateKey.ofDocument?)
  let payload ← m.withDefault "value" .null payload
  return ⟨key, payload⟩

def Criteria.members : List String := ["field", "predicates", "negating", "boost"]

def Criteria.reader (predicate : Reader Predicate) : Reader Criteria := fun d => do
  let m ← d.members? Criteria.members
  let field ← m.withDefault "field" none (Reader.optional Field.ofDocument?)
  let predicates ← m.withDefault "predicates" [] (Reader.list predicate)
  let negating ← m.withDefault "negating" false Reader.bool
  let boost ← m.withDefault "boost" none (Reader.optional Reader.single)
  return ⟨field, predicates, negating, boost⟩

def Clause.members : List String := ["junction", "node"]

def Clause.reader (node : Reader Node) : Reader Clause := fun d => do
  let m ← d.members? Clause.members
  let junction ← m.withDefault "junction" .and (Reader.choice Junction.names)
  let node ← m.required "node" node
  return ⟨junction, node⟩

def ClauseGroup.members : List String := ["clauses", "negating", "chained"]

def ClauseGroup.reader (clause : Reader Clause) : Reader ClauseGroup := fun d => do
  let m ← d.members? ClauseGroup.members
  let clauses ← m.withDefault "clauses" [] (Reader.list clause)
  let negating ← m.withDefault "negating" false Reader.bool
  let chained ← m.withDefault "chained" false Reader.bool
  return ⟨clauses, negating, chained⟩

def Node.rawMembers : List String := ["query"]

/-- The tags of nodes in documents. -/
def Node.tags : List String := ["criteria", "raw", "group"]

/-- Reads a raw query text. -/
def Node.rawText? : Reader String := fun d => do
  let m ← d.members? Node.rawMembers
  m.required "query" Reader.string

/-- Reads the record of a node with a tag. -/
def Node.ofRecord? (predicate : Reader Predicate) (clause : Reader Clause) (tag : String)
    (record : Document) : Option Node :=
  match tag with
  | "criteria" => (Criteria.reader predicate record).map .criteria
  | "raw" => (Node.rawText? record).map .raw
  | "group" => (ClauseGroup.reader clause record).map .group
  | _ => none

def Node.reader (predicate : Reader Predicate) (clause : Reader Clause) : Reader Node := fun d => do
  let (tag, record) ← d.taggedRecord? "node" Node.tags
  Node.ofRecord? predicate clause tag record

def FunctionQuery.members : List String := ["operation", "arguments"]

def FunctionQuery.reader (argument : Reader Argument) : Reader FunctionQuery := fun d => do
  let m ← d.members? FunctionQuery.members
  let operation ← m.required "operation" Reader.string
  let arguments ← m.withDefault "arguments" none (Reader.optional (Reader.list argument))
  return ⟨operation, arguments⟩

def Argument.kinds : List String := ["value", "field", "function", "criteria", "query"]

/-- Reads the content of an argument of a kind. -/
def Argument.ofContent? (function : Reader FunctionQuery) (node : Reader Node)
    (query : Reader Query) (kind : String) (content : Option Document) : Option Argument :=
  match kind with
  | "value" => content.bind fun d => (Value.ofDocument? d).map .value
  | "field" => content.bind fun d => (Field.ofDocument? d).map .field
  | "function" => content.bind fun d => (function d).map .function
  | "criteria" => content.bind fun d => (node d).map .criteria
  | "query" => content.bind fun d => (query d).map .query
  | _ => none

def Argument.reader (function : Reader FunctionQuery) (node : Reader Node)
    (query : Reader Query) : Reader Argument := fun d => do
  let (kind, content) ← d.tagged? "kind" "value" Argument.kinds
  Argument.ofContent? function node query kind content

def CalculatedField.members : List String := ["alias", "function"]

def CalculatedField.reader (function : Reader FunctionQuery) : Reader CalculatedField :=
  fun d => do
    let m ← d.members? CalculatedField.members
    let name ← m.withDefault "alias" none (Reader.optional Reader.string)
    let function ← m.required "function" function
    return ⟨name, function⟩

def GroupOptions.members : List String :=
  ["fields", "functions", "queries", "limit", "offset", "sort", "total_count", "group_main",
    "group_facets", "truncate", "cache_percent"]

def GroupOptions.reader (function : Reader FunctionQuery) (query : Reader Query) :
    Reader GroupOptions := fun d => do
  let m ← d.members? GroupOptions.members
  let fields ← m.withDefault "fields" [] (Reader.list Field.ofDocument?)
  let functions ← m.withDefault "functions" [] (Reader.list function)
  let queries ← m.withDefault "queries" [] (Reader.list query)
  let limit ← m.withDefault "limit" none (Reader.optional Reader.int32)
  let offset ← m.withDefault "offset" none (Reader.optional Reader.uint32)
  let sort ← m.withDefault "sort" [] Sorting.ofDocument?
  let totalCount ← m.withDefault "total_count" false Reader.bool
  let main ← m.withDefault "group_main" false Reader.bool
  let facets ← m.withDefault "group_facets" false Reader.bool
  let truncate ← m.withDefault "truncate" false Reader.bool
  let cachePercent ← m.withDefault "cache_percent" 0 Reader.uint8
  return ⟨fields, functions, queries, limit, offset, sort, totalCount, main, facets, truncate,
    cachePercent⟩

def FacetOptions.members : List String :=
  ["fields", "queries", "limit", "min_count", "sort", "prefix", "offset", "missing"]

def FacetOptions.reader (node : Reader Node) : Reader FacetOptions := fun d => do
  let m ← d.members? FacetOptions.members
  let fields ← m.withDefault "fields" [] (Reader.list Field.ofDocument?)
  let queries ← m.withDefault "queries" [] (Reader.list node)
  let limit ← m.withDefault "limit" 10 Reader.uint32
  let minCount ← m.withDefault "min_count" 1 Reader.uint32
  let sort ← m.withDefault "sort" .count (Reader.choice FacetSort.names)
  let startingWith ← m.withDefault "prefix" none (Reader.optional Reader.string)
  let offset ← m.withDefault "offset" none (Reader.optional Reader.uint32)
  let missing ← m.withDefault "missing" false Reader.bool
  return ⟨fields, queries, limit, minCount, sort, startingWith, offset, missing⟩

def Query.members : List String :=
  ["criteria", "filter_queries", "projection", "calculated_fields", "sort", "offset", "rows",
    "group_options", "facet_options", "default_operator", "def_type", "request_handler",
    "time_allowed"]

def Query.reader (node : Reader Node) (calculated : Reader CalculatedField)
    (group : Reader GroupOptions) (facet : Reader FacetOptions) : Reader Query := fun d => do
  let m ← d.members? Query.members
  let criteria ← m.withDefault "criteria" .empty node
  let filters ← m.withDefault "filter_queries" [] (Reader.list node)
  let projection ← m.withDefault "projection" [] (Reader.list Field.ofDocument?)
  let calculated ← m.withDefault "calculated_fields" [] (Reader.list calculated)
  let sort ← m.withDefault "sort" [] Sorting.ofDocument?
  let offset ← m.withDefault "offset" none (Reader.optional Reader.uint64)
  let rows ← m.withDefault "rows" none (Reader.optional Reader.uint32)
  let groupOptions ← m.withDefault "group_options" none (Reader.optional group)
  let facetOptions ← m.withDefault "facet_options" none (Reader.optional facet)
  let operator ← m.withDefault "default_operator" none
    (Reader.optional (Reader.choice Operator.names))
  let defType ← m.withDefault "def_type" none (Reader.optional Reader.string)
  let handler ← m.withDefault "request_handler" none (Reader.optional Reader.string)
  let timeAllowed ← m.withDefault "time_allowed" none (Reader.optional Reader.uint32)
  return ⟨criteria, filters, projection, calculated, sort, offset, rows, groupOptions,
    facetOptions, operator, defType, handler, timeAllowed⟩

/-! ## Readers of whole documents -/

/-- The readers of the types that refer to each other. -/
structure TreeReaders where
  function : Reader FunctionQuery
  argument : Reader Argument
  payload : Reader Payload
  predicate : Reader Predicate
  criteria : Reader Criteria
  node : Reader Node
  clause : Reader Clause
  calculated : Reader CalculatedField
  group : Reader GroupOptions
  facet : Reader FacetOptions
  query : Reader Query

/-- The readers of documents nested up to a number of levels. -/
def TreeReaders.upTo : Nat → TreeReaders
  | 0 =>
    { function := fun _ => none
      argument := fun _ => none
      payload := fun _ => none
      predicate := fun _ => none
      criteria := fun _ => none
      node := fun _ => none
      clause := fun _ => none
      calculated := fun _ => none
      group := fun _ => none
      facet := fun _ => none
      query := fun _ => none }
  | levels + 1 =>
    let parts := upTo levels
    { function := FunctionQuery.reader parts.argument
      argument := Argument.reader parts.function parts.node parts.query
      payload := Payload.reader parts.function
      predicate := Predicate.reader parts.payload
      criteria := Criteria.reader parts.predicate
      node := Node.reader parts.predicate parts.clause
      clause := Clause.reader parts.node
      calculated := CalculatedField.reader parts.function
      group := GroupOptions.reader parts.function parts.query
      facet := FacetOptions.reader parts.node
      query := Query.reader parts.node parts.calculated parts.group parts.facet }

/-- The readers of all documents that a JSON text can hold. -/
def treeReaders : TreeReaders :=
  TreeReaders.upTo (Json.maxDepth + 1)

def FunctionQuery.ofDocument? : Reader FunctionQuery := treeReaders.function

def Argument.ofDocument? : Reader Argument := treeReaders.argument

def Payload.ofDocument? : Reader Payload := treeReaders.payload

def Predicate.ofDocument? : Reader Predicate := treeReaders.predicate

def Criteria.ofDocument? : Reader Criteria := treeReaders.criteria

def Node.ofDocument? : Reader Node := treeReaders.node

def CalculatedField.ofDocument? : Reader CalculatedField := treeReaders.calculated

def GroupOptions.ofDocument? : Reader GroupOptions := treeReaders.group

def FacetOptions.ofDocument? : Reader FacetOptions := treeReaders.facet

def Query.ofDocument? : Reader Query := treeReaders.query

/-- Reads the JSON text of a query. -/
def Query.ofText? (text : String) : Option Query :=
  (Json.parse? text).bind fun j => Query.ofDocument? (.ofJson j)

/-! ## Writing -/

def withTag (tag content name : String) (j : Json) : Json :=
  .object [⟨tag, .string name⟩, ⟨content, j⟩]

/-- An optional number of a fixed width. -/
def optionalNat {α : Type} (toNat : α → Nat) (n : Option α) : Json :=
  .ofOption (n.map fun n => .ofNat (toNat n))

def optionalText (s : Option String) : Json :=
  .ofOption (s.map .string)

mutual

def FunctionQuery.toJson : FunctionQuery → Json
  | ⟨operation, none⟩ => .object [⟨"operation", .string operation⟩]
  | ⟨operation, some arguments⟩ =>
    .object [⟨"operation", .string operation⟩,
      ⟨"arguments", .array (FunctionQuery.argumentsJson arguments)⟩]

def FunctionQuery.argumentsJson : List Argument → List Json
  | [] => []
  | a :: r => a.toJson :: FunctionQuery.argumentsJson r

def Argument.toJson : Argument → Json
  | .value v => withTag "kind" "value" "value" v.toJson
  | .field f => withTag "kind" "value" "field" f.toJson
  | .function f => withTag "kind" "value" "function" f.toJson
  | .criteria n => withTag "kind" "value" "criteria" n.toJson
  | .query q => withTag "kind" "value" "query" q.toJson

def Payload.toJson : Payload → Json
  | .null => .object [⟨"shape", .string "null"⟩]
  | .single v => withTag "shape" "value" "single" v.toJson
  | .range r => withTag "shape" "value" "range" r.toJson
  | .geo g => withTag "shape" "value" "geo" g.toJson
  | .fuzzy term similarity =>
    withTag "shape" "value" "fuzzy"
      (.object [⟨"term", term.toJson⟩,
        ⟨"similarity", .ofOption (similarity.map fun x => x.toJson)⟩])
  | .sloppy phrase slop =>
    withTag "shape" "value" "sloppy"
      (.object [⟨"phrase", phrase.toJson⟩, ⟨"slop", .ofNat slop.toNat⟩])
  | .function f => withTag "shape" "value" "function" f.toJson

def Predicate.toJson : Predicate → Json
  | ⟨key, payload⟩ =>
    .object [⟨"key", .ofOption (key.map (·.toJson))⟩, ⟨"value", payload.toJson⟩]

def Criteria.membersJson : Criteria → List Member
  | ⟨field, predicates, negating, boost⟩ =>
    ⟨"field", .ofOption (field.map (·.toJson))⟩ ::
      ⟨"predicates", .array (Criteria.predicatesJson predicates)⟩ ::
      ⟨"negating", .bool negating⟩ :: boostMember boost

def Criteria.predicatesJson : List Predicate → List Json
  | [] => []
  | p :: r => p.toJson :: Criteria.predicatesJson r

def Node.toJson : Node → Json
  | .criteria c => .object (⟨"node", .string "criteria"⟩ :: c.membersJson)
  | .raw query => .object [⟨"node", .string "raw"⟩, ⟨"query", .string query⟩]
  | .group g => .object (⟨"node", .string "group"⟩ :: g.membersJson)

def ClauseGroup.membersJson : ClauseGroup → List Member
  | ⟨clauses, negating, chained⟩ =>
    [⟨"clauses", .array (ClauseGroup.clausesJson clauses)⟩, ⟨"negating", .bool negating⟩,
      ⟨"chained", .bool chained⟩]

def ClauseGroup.clausesJson : List Clause → List Json
  | [] => []
  | c :: r => c.toJson :: ClauseGroup.clausesJson r

def Clause.toJson : Clause → Json
  | ⟨junction, node⟩ =>
    .object [⟨"junction", choiceName Junction.names junction⟩, ⟨"node", node.toJson⟩]

def CalculatedField.toJson : CalculatedField → Json
  | ⟨name, function⟩ => .object [⟨"alias", optionalText name⟩, ⟨"function", function.toJson⟩]

def GroupOptions.toJson : GroupOptions → Json
  | ⟨fields, functions, queries, limit, offset, sort, totalCount, main, facets, truncate,
      cachePercent⟩ =>
    .object [⟨"fields", .array (fields.map Field.toJson)⟩,
      ⟨"functions", .array (GroupOptions.functionsJson functions)⟩,
      ⟨"queries", .array (GroupOptions.queriesJson queries)⟩,
      ⟨"limit", .ofOption (limit.map fun n => .ofInt n.toInt)⟩,
      ⟨"offset", optionalNat UInt32.toNat offset⟩, ⟨"sort", Sorting.toJson sort⟩,
      ⟨"total_count", .bool totalCount⟩, ⟨"group_main", .bool main⟩,
      ⟨"group_facets", .bool facets⟩, ⟨"truncate", .bool truncate⟩,
      ⟨"cache_percent", .ofNat cachePercent.toNat⟩]

def GroupOptions.functionsJson : List FunctionQuery → List Json
  | [] => []
  | f :: r => f.toJson :: GroupOptions.functionsJson r

def GroupOptions.queriesJson : List Query → List Json
  | [] => []
  | q :: r => q.toJson :: GroupOptions.queriesJson r

def FacetOptions.toJson : FacetOptions → Json
  | ⟨fields, queries, limit, minCount, sort, startingWith, offset, missing⟩ =>
    .object [⟨"fields", .array (fields.map Field.toJson)⟩,
      ⟨"queries", .array (Query.nodesJson queries)⟩, ⟨"limit", .ofNat limit.toNat⟩,
      ⟨"min_count", .ofNat minCount.toNat⟩, ⟨"sort", choiceName FacetSort.names sort⟩,
      ⟨"prefix", optionalText startingWith⟩, ⟨"offset", optionalNat UInt32.toNat offset⟩,
      ⟨"missing", .bool missing⟩]

def Query.nodesJson : List Node → List Json
  | [] => []
  | n :: r => n.toJson :: Query.nodesJson r

def Query.calculatedJson : List CalculatedField → List Json
  | [] => []
  | c :: r => c.toJson :: Query.calculatedJson r

def Query.groupJson : Option GroupOptions → Json
  | none => .null
  | some g => g.toJson

def Query.facetJson : Option FacetOptions → Json
  | none => .null
  | some o => o.toJson

def Query.toJson : Query → Json
  | ⟨criteria, filters, projection, calculated, sort, offset, rows, groupOptions, facetOptions,
      operator, defType, handler, timeAllowed⟩ =>
    .object [⟨"criteria", criteria.toJson⟩, ⟨"filter_queries", .array (Query.nodesJson filters)⟩,
      ⟨"projection", .array (projection.map Field.toJson)⟩,
      ⟨"calculated_fields", .array (Query.calculatedJson calculated)⟩,
      ⟨"sort", Sorting.toJson sort⟩, ⟨"offset", optionalNat UInt64.toNat offset⟩,
      ⟨"rows", optionalNat UInt32.toNat rows⟩, ⟨"group_options", Query.groupJson groupOptions⟩,
      ⟨"facet_options", Query.facetJson facetOptions⟩,
      ⟨"default_operator", .ofOption (operator.map (choiceName Operator.names))⟩,
      ⟨"def_type", optionalText defType⟩, ⟨"request_handler", optionalText handler⟩,
      ⟨"time_allowed", optionalNat UInt32.toNat timeAllowed⟩]

end

def Criteria.toJson (c : Criteria) : Json :=
  .object c.membersJson

/-- The count of a facet query. -/
def FacetCount.toJson (c : FacetCount) : Json :=
  .object [⟨"value", .string c.query⟩, ⟨"count", .ofNat c.count.toNat⟩]

end SolrRequest

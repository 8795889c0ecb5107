import SolrRequest.Compiler
import SolrRequest.Document.Members
import SolrRequest.Json.Print

/-!
# Documents of values, places and fields

How literal values, points, distances, boxes, ranges, fields, sortings and configurations are read
from documents and written to them. A value of an application has no document.
-/

namespace SolrRequest

open Number Time

/-- A number in a document; one that is not finite is written as null. -/
def Number.Floating.toJson {f : BinaryFormat} (x : Floating f) : Json :=
  match x.numeral? with
  | some n => .number n
  | none => .null

/-- A name of a fixed choice. -/
def choiceName {α : Type} [DecidableEq α] (names : List (String × α)) (a : α) : Json :=
  .string (((names.find? fun e => e.2 == a).map Prod.fst).getD "")

/-! ## Places -/

def Point.members : List String := ["x", "y"]

def Point.ofDocument? : Reader Point := fun d => do
  let m ← d.members? Point.members
  let x ← m.required "x" Reader.double
  let y ← m.required "y" Reader.double
  return ⟨x, y⟩

def Point.toJson (p : Point) : Json :=
  .object [⟨"x", p.x.toJson⟩, ⟨"y", p.y.toJson⟩]

def Metric.ofDocument? : Reader Metric :=
  Reader.choice Metric.names

def Metric.toJson (m : Metric) : Json :=
  choiceName Metric.names m

def Distance.members : List String := ["value", "metric"]

def Distance.ofDocument? : Reader Distance := fun d => do
  let m ← d.members? Distance.members
  let value ← m.required "value" Reader.double
  let metric ← m.withDefault "metric" Metric.default Metric.ofDocument?
  return ⟨value, metric⟩

def Distance.toJson (d : Distance) : Json :=
  .object [⟨"value", d.value.toJson⟩, ⟨"metric", d.metric.toJson⟩]

def GeoBox.members : List String := ["first", "second"]

def GeoBox.ofDocument? : Reader GeoBox := fun d => do
  let m ← d.members? GeoBox.members
  let first ← m.required "first" Point.ofDocument?
  let second ← m.required "second" Point.ofDocument?
  return ⟨first, second⟩

def GeoBox.toJson (b : GeoBox) : Json :=
  .object [⟨"first", b.first.toJson⟩, ⟨"second", b.second.toJson⟩]

def GeoShape.circleMembers : List String := ["center", "distance"]

def GeoShape.boxMembers : List String := ["bounds"]

/-- The tags of shapes in documents. -/
def GeoShape.tags : List String := ["circle", "box"]

/-- Reads the record of a shape with a tag. -/
def GeoShape.ofRecord? (tag : String) (record : Document) : Option GeoShape :=
  match tag with
  | "circle" => do
    let m ← record.members? circleMembers
    let center ← m.required "center" Point.ofDocument?
    let distance ← m.required "distance" Distance.ofDocument?
    return .circle center distance
  | "box" => do
    let m ← record.members? boxMembers
    let bounds ← m.required "bounds" GeoBox.ofDocument?
    return .box bounds
  | _ => none

def GeoShape.ofDocument? : Reader GeoShape := fun d => do
  let (tag, record) ← d.taggedRecord? "shape" GeoShape.tags
  GeoShape.ofRecord? tag record

def GeoShape.toJson : GeoShape → Json
  | .circle center distance =>
    .object [⟨"shape", .string "circle"⟩, ⟨"center", center.toJson⟩,
      ⟨"distance", distance.toJson⟩]
  | .box bounds => .object [⟨"shape", .string "box"⟩, ⟨"bounds", bounds.toJson⟩]

/-! ## Values -/

/-- A decimal is a text, or a number, which stands for the digits that it would be written with. -/
def Number.Decimal.ofDocument? : Reader Decimal
  | ⟨.string s, _⟩ => Decimal.ofText? s
  | ⟨.number n, _⟩ =>
    match n.integer? with
    | some i => Decimal.ofInt? i
    | none => n.double?.bind fun x => Decimal.ofPlain? x.plainNumeral.text
  | _ => none

def Time.Instant.ofDocument? : Reader Instant
  | ⟨.string s, _⟩ => Instant.ofText? s
  | _ => none

namespace Value

/-- The types of values in documents. -/
def types : List String :=
  ["null", "bool", "integer", "float", "decimal", "text", "date_time", "point", "distance", "box"]

/-- Reads the content of a value of a type. -/
def ofContent? (type : String) (content : Option Document) : Option Value :=
  match type with
  | "null" =>
    match content with
    | none => some .null
    | some ⟨.null, _⟩ => some .null
    | some _ => none
  | "bool" => content.bind fun d => (Reader.bool d).map bool
  | "integer" => content.bind fun d => (Reader.int64 d).map integer
  | "float" => content.bind fun d => (Reader.double d).map float
  | "decimal" => content.bind fun d => (Decimal.ofDocument? d).map decimal
  | "text" => content.bind fun d => (Reader.string d).map text
  | "date_time" => content.bind fun d => (Instant.ofDocument? d).map dateTime
  | "point" => content.bind fun d => (Point.ofDocument? d).map point
  | "distance" => content.bind fun d => (Distance.ofDocument? d).map distance
  | "box" => content.bind fun d => (GeoBox.ofDocument? d).map box
  | _ => none

def ofDocument? : Reader Value := fun d => do
  let (type, content) ← d.tagged? "type" "value" types
  ofContent? type content

/-- A value of a type with its content. -/
def withType (type : String) (content : Json) : Json :=
  .object [⟨"type", .string type⟩, ⟨"value", content⟩]

def toJson : Value → Json
  | null => .object [⟨"type", .string "null"⟩]
  | bool b => withType "bool" (.bool b)
  | integer i => withType "integer" (.ofInt i.toInt)
  | float x => withType "float" x.toJson
  | decimal d => withType "decimal" (.string d.text)
  | text s => withType "text" (.string s)
  | dateTime t => withType "date_time" (.string t.exactText)
  | point p => withType "point" p.toJson
  | distance d => withType "distance" d.toJson
  | box b => withType "box" b.toJson
  | custom _ => .unreadable

end Value

/-! ## Ranges, fields and sortings -/

def ValueRange.members : List String := ["lower", "upper", "include_lower", "include_upper"]

def ValueRange.ofDocument? : Reader ValueRange := fun d => do
  let m ← d.members? ValueRange.members
  let lower ← m.withDefault "lower" none (Reader.optional Value.ofDocument?)
  let upper ← m.withDefault "upper" none (Reader.optional Value.ofDocument?)
  let includeLower ← m.withDefault "include_lower" true Reader.bool
  let includeUpper ← m.withDefault "include_upper" true Reader.bool
  return ⟨lower, upper, includeLower, includeUpper⟩

def ValueRange.toJson (r : ValueRange) : Json :=
  .object [⟨"lower", .ofOption (r.lower.map (·.toJson))⟩,
    ⟨"upper", .ofOption (r.upper.map (·.toJson))⟩, ⟨"include_lower", .bool r.includeLower⟩,
    ⟨"include_upper", .bool r.includeUpper⟩]

/-- The member of a boost, which is written only when there is one. -/
def boostMember : Option Single → List Member
  | none => []
  | some boost => [⟨"boost", boost.toJson⟩]

def Field.members : List String := ["name", "boost"]

def Field.ofDocument? : Reader Field := fun d => do
  let m ← d.members? Field.members
  let name ← m.required "name" Reader.string
  let boost ← m.withDefault "boost" none (Reader.optional Reader.single)
  return ⟨name, boost⟩

def Field.toJson (f : Field) : Json :=
  .object (⟨"name", .string f.name⟩ :: boostMember f.boost)

def Direction.names : List (String × Direction) := [("asc", .ascending), ("desc", .descending)]

def Junction.names : List (String × Junction) := [("and", .and), ("or", .or)]

def Operator.names : List (String × Operator) := [("and", .and), ("or", .or)]

def FacetSort.names : List (String × FacetSort) := [("count", .count), ("index", .index)]

def SortOrder.members : List String := ["field", "direction"]

def SortOrder.ofDocument? : Reader SortOrder := fun d => do
  let m ← d.members? SortOrder.members
  let field ← m.required "field" Field.ofDocument?
  let direction ← m.withDefault "direction" .ascending (Reader.choice Direction.names)
  return ⟨field, direction⟩

def SortOrder.toJson (o : SortOrder) : Json :=
  .object [⟨"field", o.field.toJson⟩, ⟨"direction", choiceName Direction.names o.direction⟩]

def Sorting.ofDocument? : Reader Sorting :=
  Reader.list SortOrder.ofDocument?

def Sorting.toJson (s : Sorting) : Json :=
  .array (s.map SortOrder.toJson)

/-! ## Configurations -/

/-- Reads an object as a table; of repeated names the last one counts. -/
def Table.ofDocument? {α : Type} (read : Reader α) : Reader (Table α) := fun d =>
  match d.value with
  | .object members => do
    let entries ← members.mapM fun m => (read (d.part m.value)).map (m.name, ·)
    return Table.ofEntries entries
  | _ => none

/-- The object of a table. -/
def Table.toJson {α : Type} (write : α → Json) (t : Table α) : Json :=
  .object (t.map fun e => ⟨e.1, write e.2⟩)

def FieldMappings.ofDocument? : Reader FieldMappings := fun d =>
  (Table.ofDocument? (Table.ofDocument? Reader.string) d).map .mk

def FieldMappings.toJson (m : FieldMappings) : Json :=
  Table.toJson (Table.toJson .string) m.domains

namespace Configuration

def members : List String :=
  ["default_rows", "default_operator", "date_fraction_digits", "strict_functions", "fields"]

def ofDocument? : Reader Configuration := fun d => do
  let m ← d.members? Configuration.members
  let defaultRows ← m.withDefault "default_rows" none (Reader.optional Reader.uint32)
  let defaultOperator ←
    m.withDefault "default_operator" none (Reader.optional (Reader.choice Operator.names))
  let fractionDigits ← m.withDefault "date_fraction_digits" 3 Reader.uint8
  let strictFunctions ← m.withDefault "strict_functions" false Reader.bool
  let fields ← m.withDefault "fields" .empty FieldMappings.ofDocument?
  return ⟨defaultRows, defaultOperator, fractionDigits, strictFunctions, fields⟩

def toJson (c : Configuration) : Json :=
  .object [⟨"default_rows", .ofOption (c.defaultRows.map fun n => .ofNat n.toNat)⟩,
    ⟨"default_operator", .ofOption (c.defaultOperator.map (choiceName Operator.names))⟩,
    ⟨"date_fraction_digits", .ofNat c.fractionDigits.toNat⟩,
    ⟨"strict_functions", .bool c.strictFunctions⟩, ⟨"fields", c.fields.toJson⟩]

/-- Reads and checks a configuration. -/
def ofText (text : String) : Except Error Configuration := do
  match (Json.parse? text).bind fun j => ofDocument? (.ofJson j) with
  | none => throw .unreadableConfiguration
  | some c => do
    c.check
    return c

end Configuration

end SolrRequest

import SolrRequest.Geo
import SolrRequest.Number.Decimal
import SolrRequest.Time.Instant

/-!
# Literal values

A literal is a null, a scalar, a place, or a value of an application. A value of an application
has a kind, under which a converter can be registered, its content, and a text of its own.
-/

namespace SolrRequest

open Number Time

/-- A value of a kind that the application defines. -/
structure CustomValue where
  /-- The kind, under which converters are registered. -/
  kind : String
  /-- What a converter is given. -/
  content : String
  /-- The text used when no converter is registered. -/
  display : String
deriving Repr, DecidableEq

/-- A literal value. -/
inductive Value where
  | null
  | bool (b : Bool)
  | integer (i : Int64)
  | float (x : Double)
  | decimal (d : Decimal)
  | text (s : String)
  | dateTime (t : Instant)
  | point (p : Point)
  | distance (d : Distance)
  | box (b : GeoBox)
  | custom (c : CustomValue)
deriving Repr, DecidableEq, BEq

namespace Value

def isNull : Value → Bool
  | null => true
  | _ => false

/-- The text that a text value holds. -/
def asText : Value → Option String
  | text s => some s
  | _ => none

/-- The name of the type of a value; a custom value has none. -/
def typeName : Value → Option String
  | null => some "null"
  | bool _ => some "bool"
  | integer _ => some "integer"
  | float _ => some "float"
  | decimal _ => some "decimal"
  | text _ => some "text"
  | dateTime _ => some "datetime"
  | point _ => some "point"
  | distance _ => some "distance"
  | box _ => some "box"
  | custom _ => none

/-- The value, or null when there is none. -/
def ofOption : Option Value → Value
  | none => null
  | some v => v

end Value

end SolrRequest

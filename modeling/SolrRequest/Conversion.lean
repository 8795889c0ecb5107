import SolrRequest.Error
import SolrRequest.Table
import SolrRequest.Text.Escape
import SolrRequest.Value

/-!
# The texts of values

A conversion gives every value but null a text. It holds the converters of the application's own
kinds of values and the number of fraction digits of dates. In criteria, text values are escaped as
literals (`Conversion.literal`); every other text is used as it is.
-/

namespace SolrRequest

open Number Time

/-- How values become texts. -/
structure Conversion where
  /-- The converters of custom values by their kind. -/
  converters : Table (String → String)
  precision : Precision

namespace Conversion

/-- No converters, and dates with milliseconds. -/
def default : Conversion := ⟨[], .millis⟩

/-- A conversion with given converters and a number of fraction digits of dates. -/
def build (converters : Table (String → String)) (digits : Option UInt8) :
    Except Error Conversion :=
  match digits with
  | none => return ⟨converters, .millis⟩
  | some n =>
    match Precision.ofDigits? n.toNat with
    | some precision => return ⟨converters, precision⟩
    | none => throw (.fractionDigits n.toNat)

/-- A converter is registered for the kind of a custom value. -/
def canConvert (c : Conversion) (v : CustomValue) : Bool :=
  (Table.get? c.converters v.kind).isSome

/-- The text of a custom value: that of its converter, or else its own. -/
def customText (c : Conversion) (v : CustomValue) : String :=
  match Table.get? c.converters v.kind with
  | some convert => convert v.content
  | none => v.display

def text? (c : Conversion) : Value → Option String
  | .null => none
  | .bool b => some (if b then "true" else "false")
  | .integer i => some (String.ofList (intText i.toInt))
  | .float x => some x.text
  | .decimal d => some d.text
  | .text s => some s
  | .dateTime t => some (t.text c.precision)
  | .point p => some p.text
  | .distance d => some d.text
  | .box b => some b.text
  | .custom v => some (c.customText v)

/-- The text of a value in a criteria. -/
def literal (c : Conversion) : Value → String
  | .text s => Text.literal s
  | v => (c.text? v).getD ""

end Conversion

end SolrRequest

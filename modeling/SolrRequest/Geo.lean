import SolrRequest.Number.Floating

/-!
# Places and distances

Points, distances with their unit, and boxes spanned by two points, with the texts that stand for
them in a query. A distance is always written in kilometers, without a unit.
-/

namespace SolrRequest

open Number

/-- A point, given as latitude and longitude or in the plane. -/
structure Point where
  x : Double
  y : Double
deriving Repr, DecidableEq

/-- The unit of a distance. -/
inductive Metric where
  | kilometers
  | miles
  | neutral
deriving Repr, DecidableEq

/-- A distance in some unit. -/
structure Distance where
  value : Double
  metric : Metric
deriving Repr, DecidableEq

/-- The box spanned by two corner points. -/
structure GeoBox where
  first : Point
  second : Point
deriving Repr, DecidableEq

namespace Metric

/-- The unit of a distance that names none. -/
def default : Metric := kilometers

/-- Each unit with its name. -/
def names : List (String × Metric) :=
  [("kilometers", kilometers), ("miles", miles), ("neutral", neutral)]

def name : Metric → String
  | kilometers => "kilometers"
  | miles => "miles"
  | neutral => "neutral"

end Metric

/-- The text of a point: both coordinates with a comma between them. -/
def Point.text (p : Point) : String :=
  p.x.text ++ "," ++ p.y.text

/-- How many kilometers make a mile. -/
def kilometersPerMile : Double :=
  Floating.ofRatio false 1609344 1000000

namespace Distance

/-- The distance in kilometers; a neutral distance counts as given in them. -/
def inKilometers (d : Distance) : Double :=
  match d.metric with
  | .miles => d.value.mul kilometersPerMile
  | .kilometers => d.value
  | .neutral => d.value

/-- The text of a distance: its kilometers. -/
def text (d : Distance) : String :=
  d.inKilometers.text

end Distance

/-- The text of a box: a range between its corners. -/
def GeoBox.text (b : GeoBox) : String :=
  "[" ++ b.first.text ++ " TO " ++ b.second.text ++ "]"

end SolrRequest

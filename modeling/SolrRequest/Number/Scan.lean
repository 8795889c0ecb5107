import SolrRequest.Number.Floating

/-!
# Numbers in plain texts

A text is a number when it is a sign, digits with a point among them, and an exponent, of which the
digits alone are needed, or when it is a word for an infinity or for what is not a number. Numbers
are rounded to the nearest double.
-/

namespace SolrRequest.Number

-- Powers are those of the core library, whatever else is imported.
attribute [local instance (1100)] instPowNat

/-- How many places a decimal may have before the point, and how many zeros after it, for its
double to be neither zero nor infinite. -/
def decimalReach : Nat := 400

/-- The double nearest to `digits * 10 ^ exponent`. -/
def nearestDouble (negative : Bool) (digits : Nat) (exponent : Int) : Double :=
  let leading := (natText digits).length + exponent
  if digits = 0 ∨ leading < -(decimalReach : Int) then Floating.ofRank negative 0
  else if decimalReach < leading then Floating.infinity negative
  else if exponent < 0 then Floating.ofRatio negative digits (10 ^ (-exponent).toNat)
  else Floating.ofRatio negative (digits * 10 ^ exponent.toNat) 1

/-- The exponent that a decimal ends with. -/
def exponentOf? : List Char → Option Int
  | [] => some 0
  | c :: r => if c = 'e' ∨ c = 'E' then integerOf? r else none

/-- The digits after the point, if there is one, and what follows them. -/
def takeFraction : List Char → List Char × List Char
  | '.' :: r => takeDigits r
  | s => ([], s)

/-- The double of a decimal without a sign, with a digit before or after the point. -/
def decimalOf? (negative : Bool) (s : List Char) : Option Double := do
  let (whole, s) := takeDigits s
  let (fraction, s) := takeFraction s
  if whole = [] ∧ fraction = [] then none
  else
    let exponent ← exponentOf? s
    some (nearestDouble negative (digitsValue (whole ++ fraction)) (exponent - fraction.length))

/-- The double of a text. -/
def doubleOf? (s : List Char) : Option Double :=
  let (negative, s) := takeSign s
  let word := s.map Char.toLower
  if word = "inf".toList ∨ word = "infinity".toList then some (Floating.infinity negative)
  else if word = "nan".toList then some Floating.nan
  else decimalOf? negative s

example : (doubleOf? "-12.5e-1".toList).map (·.text) = some "-1.25" := by decide +kernel

example : doubleOf? ".".toList = none ∧ doubleOf? "1e".toList = none := by decide

end SolrRequest.Number

import SolrRequest.Number.Digits

/-!
# Decimal numerals

A numeral is a sign, decimal digits with a number of places after the point, and possibly a power
of ten. `Numeral.text` writes it. `ScaledDecimal` is a natural number times a power of ten; it is
laid out positionally (`ScaledDecimal.positional`) or with an exponent (`ScaledDecimal.scientific`).
-/

namespace SolrRequest.Number

-- Powers are those of the core library, whatever else is imported.
attribute [local instance (1100)] instPowNat

/-- A decimal numeral: `digits` over `10 ^ places`, times ten to the `exponent` if there is one. -/
structure Numeral where
  negative : Bool
  digits : Nat
  places : Nat
  exponent : Option Int
deriving Repr, DecidableEq

namespace Numeral

/-- The numeral of an integer. -/
def ofInt (i : Int) : Numeral where
  negative := i < 0
  digits := i.natAbs
  places := 0
  exponent := none

/-- The digits before the point. -/
def wholeText (x : Numeral) : List Char :=
  natText (x.digits / 10 ^ x.places)

/-- The point and the digits after it; nothing when there are none. -/
def fractionText (x : Numeral) : List Char :=
  if x.places = 0 then [] else '.' :: padded x.places (x.digits % 10 ^ x.places)

/-- The exponent with its sign, which is always written. -/
def exponentText (x : Numeral) : List Char :=
  match x.exponent with
  | none => []
  | some e => 'e' :: (if e < 0 then '-' else '+') :: natText e.natAbs

def text (x : Numeral) : List Char :=
  (if x.negative then ['-'] else []) ++ x.wholeText ++ x.fractionText ++ x.exponentText

end Numeral

/-- The number `digits * 10 ^ exponent`. -/
structure ScaledDecimal where
  digits : Nat
  exponent : Int
deriving Repr, DecidableEq

namespace ScaledDecimal

/-- The same number with the trailing zeros of its digits moved into the exponent. -/
def stripZeros (d : ScaledDecimal) : ScaledDecimal :=
  if h : d.digits ≠ 0 ∧ d.digits % 10 = 0 then
    stripZeros ⟨d.digits / 10, d.exponent + 1⟩
  else d
termination_by d.digits
decreasing_by omega

/-- Written out without an exponent, with a point only when there are digits after it. -/
def wholeOrPointed (negative : Bool) (d : ScaledDecimal) : Numeral where
  negative := negative
  digits := d.digits * 10 ^ d.exponent.toNat
  places := (-d.exponent).toNat
  exponent := none

/-- Written out without an exponent, with at least one digit after the point. -/
def positional (negative : Bool) (d : ScaledDecimal) : Numeral :=
  if d.exponent < 0 then d.wholeOrPointed negative
  else
    { negative := negative
      digits := d.digits * 10 ^ (d.exponent.toNat + 1)
      places := 1
      exponent := none }

/-- The exponent of the leading digit. -/
def leadingExponent (d : ScaledDecimal) : Int :=
  d.exponent + ((natText d.digits).length - 1 : Nat)

/-- One digit before the point, the others after it, and an exponent. -/
def scientific (negative : Bool) (d : ScaledDecimal) : Numeral where
  negative := negative
  digits := d.digits
  places := (natText d.digits).length - 1
  exponent := some d.leadingExponent

end ScaledDecimal

example : ((ScaledDecimal.mk 15 (-1)).positional true).text = "-1.5".toList := by decide

example : ((ScaledDecimal.mk 15 (-8)).scientific false).text = "1.5e-7".toList := by decide

end SolrRequest.Number

import SolrRequest.Number.Floating

/-!
# The numbers that numerals denote

A numeral without point and exponent is an integer when it fits a signed or unsigned word of 64
bits; `-0` does not count as one. Any numeral is read as a double in two rounded steps: the
leading digits that fit an unsigned word of 64 bits are rounded to a double, and that is multiplied
by, or divided by, the double nearest to a power of ten. The result can differ in the last bit from
the double nearest to the numeral. A numeral beyond the finite doubles has no value.
-/

namespace SolrRequest.Number

-- Powers are those of the core library, whatever else is imported.
attribute [local instance (1100)] instPowNat

/-- The digits of the fraction, with their leading zeros. -/
def Numeral.fractionDigits (x : Numeral) : List Char :=
  if x.places = 0 then [] else padded x.places (x.digits % 10 ^ x.places)

/-- Appends digits to a number as long as it fits 64 bits; gives the digits left over. -/
def takeWord (n : Nat) : List Char → Nat × List Char
  | [] => (n, [])
  | c :: r =>
    if n * 10 + digitValue c < UInt64.size then takeWord (n * 10 + digitValue c) r else (n, c :: r)

/-- The double nearest to a power of ten. -/
def powerOfTen (k : Nat) : Double :=
  Floating.ofNat (10 ^ k)

/-- The greatest power of ten that is a finite double. -/
def greatestPower : Nat := 308

/-- Divides by a power of ten, in steps of the greatest one. -/
def scaleDown (x : Double) (k : Nat) : Double :=
  if k ≤ greatestPower then x.divPositive (powerOfTen k)
  else if x.isZero then x
  else scaleDown (x.divPositive (powerOfTen greatestPower)) (k - greatestPower)
termination_by k
decreasing_by
  have : 0 < greatestPower := by decide
  omega

/-- Multiplies by a power of ten, unless the result is too large. -/
def scaleUp? (x : Double) (k : Nat) : Option Double :=
  if k ≤ greatestPower then
    let y := x.mul (powerOfTen k)
    if y.isFinite then some y else none
  else if x.isZero then some x
  else none

namespace Numeral

/-- The leading digits that fit a word, and the power of ten that they are multiplied by. -/
def significand (x : Numeral) : Nat × Int :=
  let (whole, dropped) := takeWord 0 x.wholeText
  let (all, rest) := takeWord whole x.fractionDigits
  (all, (dropped.length : Int) - (x.fractionDigits.length - rest.length : Nat) + x.exponent.getD 0)

def double? (x : Numeral) : Option Double :=
  let (digits, power) := x.significand
  let start : Double := Floating.ofRatio x.negative digits 1
  if 0 ≤ power then scaleUp? start power.toNat else some (scaleDown start (-power).toNat)

/-- The integer that a numeral denotes. -/
def integer? (x : Numeral) : Option Int :=
  if x.places = 0 ∧ x.exponent = none then
    if x.negative then
      if 0 < x.digits ∧ Int64.minValue.toInt ≤ -(x.digits : Int) then some (-(x.digits : Int))
      else none
    else if x.digits < UInt64.size then some x.digits
    else none
  else none

/-- The single-precision number that a numeral is read as: an integer is rounded once, anything
else is read as a double first. -/
def single? (x : Numeral) : Option Single :=
  match x.integer? with
  | some i => some (Floating.ofInt i)
  | none => x.double?.map Single.ofDouble

end Numeral

example : (Numeral.double? ⟨true, 15, 1, some 2⟩).map (·.text) = some "-150.0" := by decide +kernel

end SolrRequest.Number

import SolrRequest.Number.Shortest

/-!
# Floating-point numbers

A floating-point number is a bit pattern of its format: a sign and a rank. `Double` and `Single`
are the two precisions in use. Arithmetic rounds the exact result to the nearest number.

* `Floating.text` is the positional text with at least one digit after the point, used in queries.
* `Floating.numeral?` is the numeral of a finite number in documents: positional for leading
  exponents from -5 to 15, scientific otherwise.
-/

namespace SolrRequest.Number

-- Powers are those of the core library, whatever else is imported.
attribute [local instance (1100)] instPowNat

/-- A bit pattern of a binary format. -/
structure Floating (f : BinaryFormat) where
  bits : BitVec (1 + f.exponentBits + f.fractionBits)
deriving Repr, DecidableEq

/-- A number in double precision. -/
abbrev Double := Floating .binary64

/-- A number in single precision. -/
abbrev Single := Floating .binary32

namespace Floating

variable {f : BinaryFormat}

/-- The weight of the sign bit. -/
def signWeight (f : BinaryFormat) : Nat :=
  2 ^ (f.exponentBits + f.fractionBits)

/-- The number with a given sign and rank. -/
def ofRank (negative : Bool) (rank : Nat) : Floating f :=
  ⟨BitVec.ofNat _ ((if negative then signWeight f else 0) + rank)⟩

/-- The sign bit is set. -/
def negative (x : Floating f) : Bool :=
  signWeight f ≤ x.bits.toNat

/-- The pattern without the sign. -/
def rank (x : Floating f) : Nat :=
  x.bits.toNat % signWeight f

/-- The magnitude, in least positive magnitudes. -/
def units (x : Floating f) : Nat :=
  f.units x.rank

def isNaN (x : Floating f) : Bool :=
  f.infinityRank < x.rank

def isInfinite (x : Floating f) : Bool :=
  x.rank == f.infinityRank

def isFinite (x : Floating f) : Bool :=
  x.rank < f.infinityRank

def isZero (x : Floating f) : Bool :=
  x.rank == 0

/-- A pattern that is not a number. -/
def nan : Floating f :=
  ofRank false (f.infinityRank + 2 ^ (f.fractionBits - 1))

def infinity (negative : Bool) : Floating f :=
  ofRank negative f.infinityRank

/-- The number nearest to the quotient `p / q`, with a sign. -/
def ofRatio (negative : Bool) (p q : Nat) : Floating f :=
  ofRank negative (f.nearest p q)

def ofNat (n : Nat) : Floating f :=
  ofRatio false n 1

def ofInt (i : Int) : Floating f :=
  ofRatio (i < 0) i.natAbs 1

/-- Less than zero; neither zero is. -/
def isBelowZero (x : Floating f) : Bool :=
  !x.isNaN && x.negative && !x.isZero

def isAtMostOne (x : Floating f) : Bool :=
  !x.isNaN && (x.negative || x.rank ≤ f.nearest 1 1)

/-- The number with the opposite sign bit. -/
def neg (x : Floating f) : Floating f :=
  ofRank (!x.negative) x.rank

/-- The product, rounded to the nearest number. -/
def mul (x y : Floating f) : Floating f :=
  let negative := x.negative != y.negative
  if x.isNaN || y.isNaN then nan
  else if x.isInfinite || y.isInfinite then
    if x.isZero || y.isZero then nan else infinity negative
  else ofRatio negative (x.units * y.units) (f.unitsPerOne * f.unitsPerOne)

/-- The quotient by a positive finite number, rounded to the nearest number. -/
def divPositive (x y : Floating f) : Floating f :=
  if x.isFinite then ofRatio x.negative x.units y.units else x

/-- The number nearest to this one in another format. -/
def convert {g : BinaryFormat} (x : Floating f) : Floating g :=
  if x.isNaN then nan
  else if x.isInfinite then infinity x.negative
  else ofRatio x.negative x.units f.unitsPerOne

/-- The decimal that stands for the magnitude of a finite number. -/
def decimal (tie : Tie) (x : Floating f) : ScaledDecimal :=
  if x.isZero then ⟨0, 0⟩ else f.shortest tie x.rank

/-- The positional text of a number: never an exponent, always a digit after the point; of two
decimals equally near the larger is taken. -/
def text (x : Floating f) : String :=
  if x.isNaN then "NaN"
  else if x.isInfinite then (if x.negative then "-Infinity" else "Infinity")
  else String.ofList ((x.decimal .up).positional x.negative).text

/-- The text of a finite number without an exponent and without superfluous places. -/
def plainNumeral (x : Floating f) : Numeral :=
  (x.decimal .up).wholeOrPointed x.negative

/-- The numeral of a finite number in a document; of two decimals equally near the even one is
taken. There is none for infinities and for what is not a number. -/
def numeral? (x : Floating f) : Option Numeral :=
  if x.isFinite then
    let d := x.decimal .even
    some (if -5 ≤ d.leadingExponent ∧ d.leadingExponent ≤ 15 then d.positional x.negative
      else d.scientific x.negative)
  else none

end Floating

namespace Double

/-- A single-precision number as a double; every one is exact. -/
def ofSingle (x : Single) : Double :=
  x.convert

end Double

namespace Single

/-- The single-precision number nearest to a double. -/
def ofDouble (x : Double) : Single :=
  x.convert

end Single

end SolrRequest.Number

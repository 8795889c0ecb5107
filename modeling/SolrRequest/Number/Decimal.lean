import SolrRequest.Number.Numeral

/-!
# Fixed-point decimals

A decimal has a sign, a mantissa of 96 bits and up to 28 places after the point; trailing zeros
count. Its text is positional. Two notations are read:

* plain (`Decimal.ofPlain?`): a sign, digits with `_` between them, and a point. Digits beyond the
  capacity after the point are rounded off, a half away from zero; digits beyond it before the
  point are refused. Zero gets no sign.
* scientific (`Decimal.ofScientific?`): a plain decimal, `e` or `E`, and an exponent that moves the
  point. Places beyond the most are rounded off, a half away from zero; a negative number that is
  rounded to zero keeps its sign.

`==` compares the numbers: neither trailing zeros nor the sign of zero count.
-/

namespace SolrRequest.Number

-- Powers are those of the core library, whatever else is imported.
attribute [local instance (1100)] instPowNat

/-- The mantissas that fit 96 bits. -/
def Decimal.capacity : Nat := 0x1000000000000000000000000

/-- The most places after the point. -/
def Decimal.maxScale : Nat := 28

/-- A signed decimal with a fixed number of places. -/
structure Decimal where
  negative : Bool
  mantissa : Nat
  scale : Nat
  mantissa_lt : mantissa < Decimal.capacity
  scale_le : scale ≤ Decimal.maxScale
deriving Repr, DecidableEq

namespace Decimal

/-- A decimal from its parts, if they fit. -/
def ofParts? (negative : Bool) (mantissa scale : Nat) : Option Decimal :=
  if h : mantissa < capacity ∧ scale ≤ maxScale then
    some ⟨negative, mantissa, scale, h.1, h.2⟩
  else none

def ofInt? (i : Int) : Option Decimal :=
  ofParts? (i < 0) i.natAbs 0

/-- The mantissa with its sign. -/
def signed (d : Decimal) : Int :=
  if d.negative then -(d.mantissa : Int) else d.mantissa

/-- Both are the same number. -/
def sameNumber (a b : Decimal) : Bool :=
  a.signed * (10 ^ b.scale : Nat) == b.signed * (10 ^ a.scale : Nat)

instance : BEq Decimal := ⟨sameNumber⟩

/-- The text of a decimal: all its places are written. -/
def text (d : Decimal) : String :=
  String.ofList
    (Numeral.text
      { negative := d.negative, digits := d.mantissa, places := d.scale, exponent := none })

/-! ## Reading -/

/-- A digit, or the mark that may stand between digits. -/
def isDigitOrMark (c : Char) : Bool :=
  c.isDigit || c == '_'

/-- Rounds off the places from the character `c` on, after which only digits and marks may follow; a
mark there counts as zero. Should the mantissa overflow by that, one more place is given up. -/
def roundOff (mantissa scale : Nat) (c : Char) (rest : List Char) : Option (Nat × Nat) :=
  if !rest.all isDigitOrMark then none
  else if c.isDigit then
    if digitValue c < 5 then some (mantissa, scale)
    else if mantissa + 1 < capacity then some (mantissa + 1, scale)
    else if scale = 0 then none
    else some ((mantissa + 5) / 10, scale - 1)
  else if c = '_' then some (mantissa, scale)
  else none

/-- What a mantissa has to reach, but for its last digit, to be read as a wide one. -/
def wideStart : Nat := 1844674407370954906

/-- The places are rounded off from this character on: there are enough of them. In a wide mantissa
a mark between digits is passed over first. -/
def isRounded (mantissa scale : Nat) (c : Char) : Bool :=
  maxScale ≤ scale && !(wideStart ≤ mantissa / 10 && c == '_')

/-- Reads digits into a mantissa and a scale. `pointed` tells that the point has been read, and
`started` that a digit has. -/
def readDigits (mantissa scale : Nat) (pointed started : Bool) : List Char → Option (Nat × Nat)
  | [] => if started then some (mantissa, scale) else none
  | c :: r =>
    if isRounded mantissa scale c then roundOff mantissa scale c r
    else if c.isDigit then
      let next := mantissa * 10 + digitValue c
      if next < capacity then readDigits next (if pointed then scale + 1 else scale) pointed true r
      else if pointed then roundOff mantissa scale c r
      else none
    else if c = '.' then
      if pointed then none else readDigits mantissa scale true started r
    else if c = '_' then
      if started then readDigits mantissa scale pointed started r else none
    else none

/-- Reads the plain notation. -/
def ofPlain? (s : List Char) : Option Decimal := do
  let (negative, digits) := takeSign s
  let (mantissa, scale) ← readDigits 0 0 false false digits
  ofParts? (negative && mantissa != 0) mantissa scale

/-- Reads a natural number of 32 bits; a plus sign may stand in front. -/
def readExponent (s : List Char) : Option Nat :=
  (naturalOf? s).filter (· < UInt32.size)

/-- Moves the point of a decimal to the right. -/
def shiftRight? (d : Decimal) (places : Nat) : Option Decimal :=
  if places ≤ d.scale then ofParts? d.negative d.mantissa (d.scale - places)
  else if places ≤ maxScale then ofParts? d.negative (d.mantissa * 10 ^ (places - d.scale)) 0
  else none

/-- A mantissa without its last digits, rounded to the nearest one, a half away from zero. -/
def dropDigits (mantissa count : Nat) : Nat :=
  (2 * mantissa + 10 ^ count) / (2 * 10 ^ count)

/-- Moves the point of a decimal to the left; places beyond the most are rounded off. -/
def shiftLeft? (d : Decimal) (places : Nat) : Option Decimal :=
  if maxScale < places then none
  else
    let excess := d.scale + places - maxScale
    ofParts? d.negative (dropDigits d.mantissa excess) (d.scale + places - excess)

/-- Reads the scientific notation. -/
def ofScientific? (s : List Char) : Option Decimal := do
  let isMark := fun c : Char => c == 'e' || c == 'E'
  let base ← ofPlain? (s.takeWhile (!isMark ·))
  match s.dropWhile (!isMark ·) with
  | [] => none
  | _ :: '-' :: e => base.shiftLeft? (← readExponent e)
  | _ :: e => base.shiftRight? (← readExponent e)

/-- Reads either notation. -/
def ofText? (s : String) : Option Decimal :=
  (ofPlain? s.toList).or (ofScientific? s.toList)

end Decimal

example : Decimal.capacity = 2 ^ 96 := by decide

example : (Decimal.ofText? "-1.5E-2").map Decimal.text = some "-0.015" := by decide

example : (Decimal.ofText? "00012.340").map Decimal.text = some "12.340" := by decide

example : (Decimal.ofText? "-1.26e-27").map Decimal.text =
    some "-0.0000000000000000000000000013" := by decide +kernel

end SolrRequest.Number

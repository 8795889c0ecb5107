import SolrRequest.Number.Binary
import SolrRequest.Number.Numeral

/-!
# The shortest decimal that reads back

Every finite rank of a binary format owns an interval of reals: those nearer to its magnitude than
to the magnitudes of its neighbours, the ends included when the rank is even. `shortest` is a
decimal in that interval with the fewest digits, and of those the nearest to the magnitude.

* `ownsDecimal` tests a decimal against the interval, exactly.
* `onGrid?` looks at the two neighbours of the magnitude among the multiples of a power of ten.
* `shortest` goes through the powers of ten from the coarsest one down. Should none of seventeen
  be fine enough, it writes the magnitude out exactly, so its result always lies in the interval.
-/

namespace SolrRequest.Number

-- Powers are those of the core library, whatever else is imported.
attribute [local instance (1100)] instPowNat

/-- Which of two equally near decimals is taken. -/
inductive Tie where
  | up
  | even
deriving Repr, DecidableEq

namespace BinaryFormat

variable (f : BinaryFormat)

/-- Compares `d * 10 ^ e` with a number of half units. -/
def compareHalves (d : Nat) (e : Int) (halves : Nat) : Ordering :=
  compare (d * 10 ^ e.toNat * (2 * f.unitsPerOne)) (halves * 10 ^ (-e).toNat)

/-- The decimal `d * 10 ^ e` lies in the interval of rank `n`. -/
def ownsDecimal (n d : Nat) (e : Int) : Bool :=
  let low := f.compareHalves d e (f.units (n - 1) + f.units n)
  let high := f.compareHalves d e (f.units n + f.units (n + 1))
  (low == .gt || (n % 2 == 0 && low == .eq)) && (high == .lt || (n % 2 == 0 && high == .eq))

/-- The multiple of `10 ^ e` at or just below the magnitude of rank `n`, divided by `10 ^ e`. -/
def gridBelow (n : Nat) (e : Int) : Nat :=
  f.units n * 10 ^ (-e).toNat / (10 ^ e.toNat * f.unitsPerOne)

/-- The nearer of the two multiples of `10 ^ e` around the magnitude of rank `n`, if one of them
lies in the interval of that rank. -/
def onGrid? (tie : Tie) (n : Nat) (e : Int) : Option ScaledDecimal :=
  let below := f.gridBelow n e
  let above := below + 1
  match f.ownsDecimal n below e, f.ownsDecimal n above e with
  | false, false => none
  | true, false => some ⟨below, e⟩
  | false, true => some ⟨above, e⟩
  | true, true =>
    match f.compareHalves (below + above) e (4 * f.units n) with
    | .lt => some ⟨above, e⟩
    | .gt => some ⟨below, e⟩
    | .eq =>
      match tie with
      | .up => some ⟨above, e⟩
      | .even => some ⟨below + below % 2, e⟩

/-- The least `k` for which the magnitude of rank `n` is below `10 ^ k`: guessed from the binary
logarithm and corrected. -/
def decimalScale (n : Nat) : Int :=
  let guess := (((f.units n).log2 : Int) - f.unitBits) * 30103 / 100000
  if f.compareHalves 1 guess (2 * f.units n) == .gt then guess
  else if f.compareHalves 1 (guess + 1) (2 * f.units n) == .gt then guess + 1
  else guess + 2

/-- The magnitude of rank `n`, exactly. -/
def exactDecimal (n : Nat) : ScaledDecimal :=
  ⟨f.units n * 5 ^ f.unitBits, -f.unitBits⟩

/-- The shortest decimal in the interval of a rank other than zero. -/
def shortest (tie : Tie) (n : Nat) : ScaledDecimal :=
  let scale := f.decimalScale n
  let found := (List.range 17).findSome? fun i : Nat => f.onGrid? tie n (scale - 1 - i)
  (found.getD (f.exactDecimal n)).stripZeros

end BinaryFormat

end SolrRequest.Number

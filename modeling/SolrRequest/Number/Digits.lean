/-!
# Decimal digits

Natural numbers and integers in decimal digits, with or without a fixed width, and the value of a
run of digits. Reading undoes writing: `digitsValue_natText`, `digitsValue_padded`.
-/

namespace SolrRequest.Number

-- Powers are those of the core library, whatever else is imported.
attribute [local instance (1100)] instPowNat

/-- The digits of a natural number, without superfluous leading zeros. -/
def natText (n : Nat) : List Char :=
  Nat.toDigits 10 n

/-- The digits of a natural number, filled up with leading zeros to at least `width` digits. -/
def padded (width n : Nat) : List Char :=
  List.replicate (width - (natText n).length) '0' ++ natText n

/-- The digits of an integer, with a minus sign when it is negative. -/
def intText : Int → List Char
  | .ofNat n => natText n
  | .negSucc n => '-' :: natText (n + 1)

/-- The number that a run of digits denotes. -/
def digitsValue (s : List Char) : Nat :=
  Nat.ofDigitChars 10 s 0

def digitValue (c : Char) : Nat :=
  c.toNat - '0'.toNat

/-- The digits that a text starts with, and what follows them. -/
def takeDigits (s : List Char) : List Char × List Char :=
  (s.takeWhile Char.isDigit, s.dropWhile Char.isDigit)

/-- Splits a sign off a text; a plus may stand as well as a minus. -/
def takeSign : List Char → Bool × List Char
  | '-' :: r => (true, r)
  | '+' :: r => (false, r)
  | s => (false, s)

/-- The natural number of a text of digits, which may start with a plus. -/
def naturalOf? (s : List Char) : Option Nat :=
  let digits := match s with
    | '+' :: r => r
    | _ => s
  if digits ≠ [] ∧ digits.all Char.isDigit then some (digitsValue digits) else none

/-- The integer of a text of digits, which may start with a sign. -/
def integerOf? (s : List Char) : Option Int :=
  let (negative, digits) := takeSign s
  if digits ≠ [] ∧ digits.all Char.isDigit then
    some (if negative then -(digitsValue digits : Int) else digitsValue digits)
  else none

/-! ## Laws -/

theorem isDigit_of_mem_natText {n : Nat} {c : Char} (h : c ∈ natText n) : c.isDigit = true :=
  Nat.isDigit_of_mem_toDigits (by decide) (by decide) h

theorem natText_ne_nil (n : Nat) : natText n ≠ [] :=
  Nat.toDigits_ne_nil

theorem digitsValue_natText (n : Nat) : digitsValue (natText n) = n :=
  Nat.ofDigitChars_ten_toDigits

theorem isDigit_of_mem_padded {width n : Nat} {c : Char} (h : c ∈ padded width n) :
    c.isDigit = true := by
  simp only [padded, List.mem_append, List.mem_replicate] at h
  rcases h with ⟨_, rfl⟩ | h
  · decide
  · exact isDigit_of_mem_natText h

theorem foldl_zeros (k : Nat) (s : List Char) :
    digitsValue (List.replicate k '0' ++ s) = digitsValue s := by
  induction k with
  | zero => rfl
  | succ k ih => simpa [digitsValue, Nat.ofDigitChars, List.replicate_succ] using ih

theorem digitsValue_padded (width n : Nat) : digitsValue (padded width n) = n := by
  rw [padded, foldl_zeros, digitsValue_natText]

theorem length_padded {width n : Nat} (h : n < 10 ^ width) (hw : 0 < width) :
    (padded width n).length = width := by
  have hlen : (natText n).length ≤ width :=
    (Nat.length_toDigits_le_iff (by decide) hw).mpr h
  simp only [padded, List.length_append, List.length_replicate]
  omega

end SolrRequest.Number

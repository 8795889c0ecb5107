import SolrRequest.Number.Reading
import SolrRequest.Proofs.Text.Prefix

/-!
# Reading digits back

Digits in front of a character that is none are read as a run (`takeDigits_run`). The digits of a
numeral before and after its point denote its digits together (`Numeral.digitsValue_text`), and
nothing stands in front of the first of them but a zero alone (`natText_leadingZero`).
-/

namespace SolrRequest.Number

open Text

-- Powers are those of the core library, whatever else is imported.
attribute [local instance (1100)] instPowNat

/-! ## Runs of digits -/

theorem takeDigits_run {a x : List Char} (ha : ∀ c ∈ a, c.isDigit = true)
    (hx : StartsOutside Char.isDigit x) : takeDigits (a ++ x) = (a, x) := by
  rw [takeDigits, takeWhile_run ha hx, dropWhile_run ha hx]

theorem digitsValue_append (a b : List Char) :
    digitsValue (a ++ b) = 10 ^ b.length * digitsValue a + digitsValue b := by
  rw [digitsValue, Nat.ofDigitChars_append, Nat.ofDigitChars_eq_ofDigitChars_zero]
  rfl

theorem digitsValue_cons (c : Char) (r : List Char) :
    digitsValue (c :: r) = 10 ^ r.length * digitValue c + digitsValue r := by
  have h := digitsValue_append [c] r
  have hc : digitsValue [c] = digitValue c := by
    simp [digitsValue, digitValue, Nat.ofDigitChars]
  rwa [hc] at h

theorem toNat_of_isDigit {c : Char} (h : c.isDigit = true) : 48 ≤ c.toNat ∧ c.toNat ≤ 57 := by
  simpa [Char.isDigit, UInt32.le_iff_toNat_le] using h

theorem digitValue_le {c : Char} (h : c.isDigit = true) : digitValue c ≤ 9 := by
  have hzero : '0'.toNat = 48 := rfl
  have hc := toNat_of_isDigit h
  rw [digitValue, hzero]
  omega

/-- A run of digits denotes less than the next power of ten. -/
theorem digitsValue_lt {s : List Char} (h : ∀ c ∈ s, c.isDigit = true) :
    digitsValue s < 10 ^ s.length := by
  induction s with
  | nil => decide
  | cons c r ih =>
    have hc := digitValue_le (h c List.mem_cons_self)
    have hr := ih fun d hd => h d (List.mem_cons_of_mem _ hd)
    have hstep : 10 ^ r.length * digitValue c ≤ 10 ^ r.length * 9 := Nat.mul_le_mul_left _ hc
    rw [digitsValue_cons, List.length_cons, Nat.pow_succ]
    omega

/-- The digits of a number start with a zero only when they are that zero. -/
theorem natText_leadingZero {n : Nat} {r : List Char} (h : natText n = '0' :: r) : r = [] := by
  refine Classical.byContradiction fun hr => ?_
  have hlength : 0 < r.length := List.length_pos_iff.mpr hr
  have hdigits : ∀ c ∈ r, c.isDigit = true :=
    fun c hc => isDigit_of_mem_natText (n := n) (h ▸ List.mem_cons_of_mem _ hc)
  have hvalue : n = digitsValue r := by
    rw [← digitsValue_natText n, h, digitsValue_cons]
    simp [digitValue]
  have hle : (natText n).length ≤ r.length :=
    (Nat.length_toDigits_le_iff (by decide) hlength).mpr (hvalue ▸ digitsValue_lt hdigits)
  rw [h, List.length_cons] at hle
  omega

theorem natText_head {n : Nat} : ∃ c r, natText n = c :: r ∧ c.isDigit = true := by
  cases h : natText n with
  | nil => exact absurd h (natText_ne_nil n)
  | cons c r => exact ⟨c, r, rfl, isDigit_of_mem_natText (n := n) (h ▸ List.mem_cons_self)⟩

/-! ## Numerals -/

namespace Numeral

theorem isDigit_of_mem_fractionDigits {x : Numeral} {c : Char} (h : c ∈ x.fractionDigits) :
    c.isDigit = true := by
  unfold fractionDigits at h
  split at h
  · cases h
  · exact isDigit_of_mem_padded h

theorem length_fractionDigits (x : Numeral) : x.fractionDigits.length = x.places := by
  unfold fractionDigits
  split
  · next h => exact h.symm
  · exact length_padded (Nat.mod_lt _ (Nat.pow_pos (by decide))) (by omega)

/-- The digits before the point and after it. -/
theorem digitsValue_text (x : Numeral) :
    digitsValue (x.wholeText ++ x.fractionDigits) = x.digits := by
  have hfraction : digitsValue x.fractionDigits = x.digits % 10 ^ x.places := by
    unfold fractionDigits
    split
    · next h => rw [h, Nat.pow_zero, Nat.mod_one]; rfl
    · rw [digitsValue_padded]
  rw [digitsValue_append, length_fractionDigits, wholeText, digitsValue_natText, hfraction]
  exact Nat.div_add_mod x.digits (10 ^ x.places)

end Numeral

end SolrRequest.Number

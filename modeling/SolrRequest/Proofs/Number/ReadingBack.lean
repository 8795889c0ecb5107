import SolrRequest.Proofs.Number.Digits
import SolrRequest.Proofs.Number.Plain
import SolrRequest.Proofs.Number.Shortest

/-!
# Reading the texts of numbers back

The text of a finite number has a sign or none, a whole part with no superfluous zero in front, a
point, and digits (`Denotes`). A text like this denotes one number (`Denotes.unique`). What the text
of a finite number denotes lies in the interval of this number, so it is rounded to no other one,
and the text of every finite number is its own (`Floating.text_denotes_only`).
-/

namespace SolrRequest.Number

open Text

-- Powers are those of the core library, whatever else is imported.
attribute [local instance (1100)] instPowNat

/-- Digits that start with a zero only when they are that zero. -/
structure IsWhole (s : List Char) : Prop where
  digits : IsDigits s
  leadingZero : ∀ r, s = '0' :: r → r = []

/-- A text is a minus sign or none, a whole part, a point, and digits, and with this sign it denotes
a number. -/
def Denotes (s : String) (negative : Bool) (r : ℚ) : Prop :=
  ∃ whole fraction, s.toList = (if negative then ['-'] else []) ++ (whole ++ '.' :: fraction) ∧
    IsWhole whole ∧ IsDigits fraction ∧ r = digitsValue (whole ++ fraction) / 10 ^ fraction.length

theorem isWhole_natText (n : Nat) : IsWhole (natText n) :=
  ⟨isDigits_natText n, fun _ => natText_leadingZero⟩

/-- Digits do not start with a sign. -/
theorem IsDigits.append_ne_minus {s t r : List Char} (h : IsDigits s) : s ++ t ≠ '-' :: r := by
  obtain ⟨c, s, rfl⟩ := List.exists_cons_of_ne_nil h.1
  rintro heq
  obtain ⟨rfl, -⟩ := List.cons.inj heq
  exact absurd (h.2 '-' List.mem_cons_self) (by decide)

/-- A text denotes one number, with one sign. -/
theorem Denotes.unique {s : String} {a b : Bool} {p q : ℚ} (hp : Denotes s a p)
    (hq : Denotes s b q) : a = b ∧ p = q := by
  obtain ⟨w, u, hs, hw, -, rfl⟩ := hp
  obtain ⟨v, t, ht, hv, -, rfl⟩ := hq
  have hpoint : ∀ x : List Char, StartsOutside Char.isDigit ('.' :: x) :=
    startsOutside_cons (by decide)
  have hparts : w ++ '.' :: u = v ++ '.' :: t → w = v ∧ u = t := fun heq =>
    (run_append_inj hw.digits.2 hv.digits.2 (hpoint u) (hpoint t) heq).imp_right
      fun htail => (List.cons.inj htail).2
  rw [hs] at ht
  cases a with
  | false =>
    cases b with
    | false =>
      obtain ⟨rfl, rfl⟩ := hparts ht
      exact ⟨rfl, rfl⟩
    | true => exact absurd ht hw.digits.append_ne_minus
  | true =>
    cases b with
    | false => exact absurd ht.symm hv.digits.append_ne_minus
    | true =>
      obtain ⟨rfl, rfl⟩ := hparts (List.cons.inj ht).2
      exact ⟨rfl, rfl⟩

/-- A numeral with a point and without an exponent denotes its digits over its places. -/
theorem Numeral.denotes_text {x : Numeral} (he : x.exponent = none) (hp : x.places ≠ 0) :
    Denotes (String.ofList x.text) x.negative (x.digits / 10 ^ x.places) := by
  have hfraction : x.fractionText = '.' :: x.fractionDigits := by
    rw [fractionText, fractionDigits, if_neg hp, if_neg hp]
  have hdigits : IsDigits x.fractionDigits := by
    rw [fractionDigits, if_neg hp]
    exact isDigits_padded _ _
  refine ⟨x.wholeText, x.fractionDigits, ?_, isWhole_natText _, hdigits, ?_⟩
  · rw [String.toList_ofList, text, exponentText, he, List.append_nil, hfraction, List.append_assoc]
  · rw [digitsValue_text, length_fractionDigits]

namespace ScaledDecimal

/-- Writing a decimal out keeps its number. -/
theorem value_positional (negative : Bool) (d : ScaledDecimal) :
    ((d.positional negative).digits / 10 ^ (d.positional negative).places : ℚ) = d.value := by
  have hten := ten_zpow_mul d.exponent
  unfold positional
  split
  · next h =>
    simp only [wholeOrPointed, value]
    rw [div_eq_iff (by positivity)]
    push_cast
    rw [mul_assoc, hten]
  · next h =>
    have hexponent : d.exponent = (d.exponent.toNat : Int) := by omega
    simp only [value]
    rw [hexponent, zpow_natCast, Int.toNat_natCast]
    push_cast
    rw [pow_succ, pow_one, ← mul_assoc, mul_div_cancel_right₀ _ (by norm_num)]

theorem denotes_positional (negative : Bool) (d : ScaledDecimal) :
    Denotes (String.ofList (d.positional negative).text) negative d.value := by
  have h := Numeral.denotes_text (d.exponent_positional negative) (d.places_positional negative)
  rwa [value_positional, negative_positional] at h

end ScaledDecimal

namespace Floating

variable {f : BinaryFormat} {x y : Floating f}

/-- The text of a finite number denotes its decimal. -/
theorem denotes_text (hx : x.isFinite = true) :
    Denotes x.text x.negative (x.decimal .up).value := by
  rw [text_of_isFinite hx]
  exact ScaledDecimal.denotes_positional _ _

/-- What the text of a finite number denotes is rounded to this number. -/
theorem isRounded_of_denotes {negative : Bool} {r : ℚ} (hx : x.isFinite = true)
    (h : Denotes x.text negative r) : x.IsRounded negative r := by
  obtain ⟨rfl, rfl⟩ := h.unique (denotes_text hx)
  exact isRounded_of_owns hx (x.owns_decimal .up)

/-- Different numbers have different texts. -/
theorem text_injective (hx : x.isFinite = true) (hy : y.isFinite = true) (h : x.text = y.text) :
    x = y := by
  have hdenotes := denotes_text hx
  have hrounded := isRounded_of_denotes hx hdenotes
  rw [h] at hdenotes
  exact hrounded.unique (isRounded_of_denotes hy hdenotes)

/-- **Numbers read back.** The text of a finite number denotes a number, with the sign of the finite
one. Of all numbers of the format this one is what it is rounded to, and no other finite one has the
same text. -/
theorem text_denotes_only (x : Floating f) (hx : x.isFinite = true) :
    (∃ r, Denotes x.text x.negative r) ∧
      (∀ negative r, Denotes x.text negative r →
        ∀ y : Floating f, y.IsRounded negative r ↔ y = x) ∧
      ∀ y : Floating f, y.isFinite = true → y.text = x.text → y = x := by
  refine ⟨⟨_, denotes_text hx⟩, fun negative r h y => ?_, fun y hy h => text_injective hy hx h⟩
  have hrounded := isRounded_of_denotes hx h
  refine ⟨fun hy => hy.unique hrounded, ?_⟩
  rintro rfl
  exact hrounded

/-- The least positive number of single precision has 45 digits after the point. The negative zero
of double precision is the only number with its text. -/
theorem leastSingle_negativeZero_text_told :
    ((⟨1⟩ : Single).isFinite = true ∧
      (⟨1⟩ : Single).text = "0.000000000000000000000000000000000000000000001" ∧
      ∀ y : Single, y.IsRounded false (1 / 10 ^ 45) ↔ y = ⟨1⟩) ∧
    ((⟨0x8000000000000000⟩ : Double).isFinite = true ∧
      ∀ y : Double, y.isFinite = true → y.text = "-0.0" → y = ⟨0x8000000000000000⟩) := by
  have hleast : (⟨1⟩ : Single).isFinite = true := by decide
  have hzero : (⟨0x8000000000000000⟩ : Double).isFinite = true := by decide +kernel
  have hzeroText : (⟨0x8000000000000000⟩ : Double).text = "-0.0" := by decide +kernel
  have hdecimal : (⟨1⟩ : Single).decimal .up = ⟨1, -45⟩ := by decide +kernel
  have hdenotes : Denotes (⟨1⟩ : Single).text false (1 / 10 ^ 45) := by
    have h := denotes_text hleast
    rw [hdecimal, ScaledDecimal.value, Nat.cast_one, one_mul, zpow_neg, ← one_div] at h
    exact_mod_cast h
  refine ⟨⟨hleast, by decide +kernel, (text_denotes_only _ hleast).2.1 _ _ hdenotes⟩, hzero, ?_⟩
  have honly := (text_denotes_only _ hzero).2.2
  rwa [hzeroText] at honly

end Floating

end SolrRequest.Number

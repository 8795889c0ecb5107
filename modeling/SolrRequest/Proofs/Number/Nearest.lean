import Mathlib.Algebra.Order.Field.Rat
import Mathlib.Tactic.Linarith
import Mathlib.Tactic.Positivity
import SolrRequest.Proofs.Number.Rounding

/-!
# The nearest number

Rounding to nearest is said here without a procedure: no magnitude of the format is nearer, and of
two that are equally near the one with an even rank is taken (`BinaryFormat.IsNearest`). The
exponents are not bounded for this; a rank that turns out too large becomes that of infinity
(`Floating.IsRounded`). A rank owns an interval, which ends in the middle between it and its
neighbours, and what lies in it is exactly what is nearest to that rank
(`BinaryFormat.owns_iff_isNearest`). There is one nearest rank for every magnitude
(`BinaryFormat.IsNearest.unique`), and the procedures find it (`Floating.isRounded_iff`).
-/

namespace SolrRequest.Number

-- Powers are those of the core library, whatever else is imported.
attribute [local instance (1100)] instPowNat

/-! ## Distances -/

section Distances

variable {a b r : ℚ}

theorem abs_sub_le_abs_sub_iff_middle (h : a < b) : |r - b| ≤ |r - a| ↔ (a + b) / 2 ≤ r := by
  rcases abs_cases (r - a) with ⟨ha, _⟩ | ⟨ha, _⟩ <;>
    rcases abs_cases (r - b) with ⟨hb, _⟩ | ⟨hb, _⟩ <;>
    rw [ha, hb] <;> constructor <;> intro <;> linarith

theorem abs_sub_le_abs_sub_iff_middle' (h : a < b) : |r - a| ≤ |r - b| ↔ r ≤ (a + b) / 2 := by
  rcases abs_cases (r - a) with ⟨ha, _⟩ | ⟨ha, _⟩ <;>
    rcases abs_cases (r - b) with ⟨hb, _⟩ | ⟨hb, _⟩ <;>
    rw [ha, hb] <;> constructor <;> intro <;> linarith

theorem abs_sub_eq_abs_sub_iff_middle (h : a < b) : |r - a| = |r - b| ↔ r = (a + b) / 2 := by
  rw [le_antisymm_iff, le_antisymm_iff, abs_sub_le_abs_sub_iff_middle h,
    abs_sub_le_abs_sub_iff_middle' h]

end Distances

namespace BinaryFormat

/-! ## Nearest ranks -/

/-- The magnitude of a rank. -/
def magnitude (f : BinaryFormat) (n : Nat) : ℚ :=
  f.units n / f.unitsPerOne

/-- The middle between two ranks. -/
def middle (f : BinaryFormat) (m n : Nat) : ℚ :=
  (f.magnitude m + f.magnitude n) / 2

/-- No rank is nearer to a number, and if another one is as near, this one is even. -/
structure IsNearest (f : BinaryFormat) (r : ℚ) (n : Nat) : Prop where
  le : ∀ m, |r - f.magnitude n| ≤ |r - f.magnitude m|
  even : ∀ m, m ≠ n → |r - f.magnitude m| = |r - f.magnitude n| → n % 2 = 0

/-- A number lies between the middles around a rank. Those belong to it when it is even. -/
structure Owns (f : BinaryFormat) (n : Nat) (r : ℚ) : Prop where
  low : f.middle (n - 1) n < r ∨ n % 2 = 0 ∧ r = f.middle (n - 1) n
  high : r < f.middle n (n + 1) ∨ n % 2 = 0 ∧ r = f.middle n (n + 1)

variable {f : BinaryFormat} {r : ℚ} {m n : Nat}

theorem unitsPerOne_pos (f : BinaryFormat) : 0 < f.unitsPerOne :=
  Nat.two_pow_pos _

theorem magnitude_lt_magnitude (h : m < n) : f.magnitude m < f.magnitude n := by
  have hone : (0 : ℚ) < f.unitsPerOne := Nat.cast_pos.mpr f.unitsPerOne_pos
  have hunits : f.units m < f.units n :=
    Nat.lt_of_lt_of_le (f.units_lt_succ m) (units_mono h)
  exact div_lt_div_of_pos_right (Nat.cast_lt.mpr hunits) hone

theorem magnitude_le_magnitude (h : m ≤ n) : f.magnitude m ≤ f.magnitude n := by
  rcases Nat.eq_or_lt_of_le h with rfl | h
  · exact le_refl _
  · exact (magnitude_lt_magnitude h).le

theorem magnitude_nonneg (f : BinaryFormat) (n : Nat) : 0 ≤ f.magnitude n := by
  unfold magnitude
  positivity

theorem magnitude_zero (f : BinaryFormat) : f.magnitude 0 = 0 := by
  rw [magnitude, f.units_of_small (Nat.two_pow_pos _), Nat.cast_zero, zero_div]

/-- The middle between neighbours is the nearest middle to either of them. -/
theorem middle_le_of_lt (h : m < n) : f.middle m n ≤ f.middle (n - 1) n := by
  have hle : f.magnitude m ≤ f.magnitude (n - 1) := magnitude_le_magnitude (by omega)
  unfold middle
  linarith

theorem le_middle_of_lt (h : n < m) : f.middle n (n + 1) ≤ f.middle n m := by
  have hle : f.magnitude (n + 1) ≤ f.magnitude m := magnitude_le_magnitude h
  unfold middle
  linarith

theorem Owns.isNearest (h : f.Owns n r) : f.IsNearest r n where
  le m := by
    rcases Nat.lt_trichotomy m n with hm | rfl | hm
    · have hmiddle := middle_le_of_lt (f := f) hm
      refine (abs_sub_le_abs_sub_iff_middle (magnitude_lt_magnitude hm)).mpr ?_
      rcases h.low with hlow | ⟨-, rfl⟩
      · exact hmiddle.trans hlow.le
      · exact hmiddle
    · exact le_refl _
    · have hmiddle := le_middle_of_lt (f := f) hm
      refine (abs_sub_le_abs_sub_iff_middle' (magnitude_lt_magnitude hm)).mpr ?_
      rcases h.high with hhigh | ⟨-, rfl⟩
      · exact hhigh.le.trans hmiddle
      · exact hmiddle
  even m hne heq := by
    rcases Nat.lt_or_gt_of_ne hne with hm | hm
    · have hr := (abs_sub_eq_abs_sub_iff_middle (magnitude_lt_magnitude hm)).mp heq
      rcases h.low with hlow | ⟨heven, -⟩
      · exact absurd (hlow.trans_eq hr) (middle_le_of_lt hm).not_gt
      · exact heven
    · have hr := (abs_sub_eq_abs_sub_iff_middle (magnitude_lt_magnitude hm)).mp heq.symm
      rcases h.high with hhigh | ⟨heven, -⟩
      · exact absurd (hr.symm.trans_lt hhigh) (le_middle_of_lt hm).not_gt
      · exact heven

/-- What is at least as large as the magnitude of a rank is above its lower end. -/
theorem low_of_magnitude_le (h : f.magnitude n ≤ r) :
    f.middle (n - 1) n < r ∨ n % 2 = 0 ∧ r = f.middle (n - 1) n := by
  rcases Nat.eq_zero_or_pos n with rfl | hn
  · -- the interval of zero starts at zero
    have hzero : f.middle (0 - 1) 0 = f.magnitude 0 := by
      unfold middle
      rw [Nat.zero_sub, add_self_div_two]
    rw [hzero]
    exact h.lt_or_eq.imp_right fun heq => ⟨rfl, heq.symm⟩
  · have hlt := magnitude_lt_magnitude (f := f) (show n - 1 < n by omega)
    left
    unfold middle
    linarith

theorem lt_middle_of_le_magnitude (h : r ≤ f.magnitude n) : r < f.middle n (n + 1) := by
  have hlt := magnitude_lt_magnitude (f := f) (Nat.lt_succ_self n)
  unfold middle
  linarith

/-- A rank owns its magnitude. -/
theorem owns_magnitude (f : BinaryFormat) (n : Nat) : f.Owns n (f.magnitude n) :=
  ⟨low_of_magnitude_le (le_refl _), .inl (lt_middle_of_le_magnitude (le_refl _))⟩

/-- The neighbours are enough to tell what lies in the interval of a rank. -/
theorem IsNearest.owns (h : f.IsNearest r n) (hr : 0 ≤ r) : f.Owns n r where
  low := by
    rcases Nat.eq_zero_or_pos n with rfl | hn
    · exact low_of_magnitude_le (f.magnitude_zero.trans_le hr)
    · have hlt : n - 1 < n := by omega
      have hmagnitude := magnitude_lt_magnitude (f := f) hlt
      have hle := (abs_sub_le_abs_sub_iff_middle hmagnitude).mp (h.le (n - 1))
      refine hle.lt_or_eq.imp_right fun heq => ⟨h.even (n - 1) hlt.ne ?_, heq.symm⟩
      exact (abs_sub_eq_abs_sub_iff_middle hmagnitude).mpr heq.symm
  high := by
    have hmagnitude := magnitude_lt_magnitude (f := f) (Nat.lt_succ_self n)
    have hle := (abs_sub_le_abs_sub_iff_middle' hmagnitude).mp (h.le (n + 1))
    refine hle.lt_or_eq.imp_right fun heq => ⟨h.even (n + 1) (Nat.succ_ne_self n) ?_, heq⟩
    exact ((abs_sub_eq_abs_sub_iff_middle hmagnitude).mpr heq).symm

theorem owns_iff_isNearest (hr : 0 ≤ r) : f.Owns n r ↔ f.IsNearest r n :=
  ⟨Owns.isNearest, fun h => h.owns hr⟩

/-- Two even ranks have another one between them, which is nearer to their middle. -/
theorem IsNearest.not_lt (hm : f.IsNearest r m) (hn : f.IsNearest r n) : ¬m < n := by
  intro hlt
  have heq : |r - f.magnitude m| = |r - f.magnitude n| := le_antisymm (hm.le n) (hn.le m)
  have hmeven := hm.even n hlt.ne' heq.symm
  have hneven := hn.even m hlt.ne heq
  have hbelow := magnitude_lt_magnitude (f := f) (show m < m + 1 by omega)
  have habove := magnitude_lt_magnitude (f := f) (show m + 1 < n by omega)
  have hr := (abs_sub_eq_abs_sub_iff_middle (magnitude_lt_magnitude hlt)).mp heq
  have hbetween := (abs_sub_le_abs_sub_iff_middle' hbelow).mp (hm.le (m + 1))
  linarith

theorem IsNearest.unique (hm : f.IsNearest r m) (hn : f.IsNearest r n) : m = n :=
  Nat.le_antisymm (Nat.le_of_not_lt (hn.not_lt hm)) (Nat.le_of_not_lt (hm.not_lt hn))

/-! ## The rank that is found -/

section Quotients

variable {p q : Nat} (hq : 0 < q)
include hq

theorem magnitude_le_div_iff : f.magnitude n ≤ (p / q : ℚ) ↔ q * f.units n ≤ p * f.unitsPerOne := by
  have hone : (0 : ℚ) < f.unitsPerOne := Nat.cast_pos.mpr f.unitsPerOne_pos
  rw [magnitude, div_le_div_iff₀ hone (Nat.cast_pos.mpr hq), mul_comm]
  exact_mod_cast Iff.rfl

theorem div_lt_middle_iff :
    (p / q : ℚ) < f.middle m n ↔ 2 * (p * f.unitsPerOne) < q * (f.units m + f.units n) := by
  have hone : (0 : ℚ) < f.unitsPerOne := Nat.cast_pos.mpr f.unitsPerOne_pos
  rw [middle, magnitude, magnitude, ← add_div, div_div,
    div_lt_div_iff₀ (Nat.cast_pos.mpr hq) (by positivity), mul_comm _ (q : ℚ), mul_comm _ (2 : ℚ),
    mul_left_comm]
  exact_mod_cast Iff.rfl

theorem middle_lt_div_iff :
    f.middle m n < (p / q : ℚ) ↔ q * (f.units m + f.units n) < 2 * (p * f.unitsPerOne) := by
  have hone : (0 : ℚ) < f.unitsPerOne := Nat.cast_pos.mpr f.unitsPerOne_pos
  rw [middle, magnitude, magnitude, ← add_div, div_div,
    div_lt_div_iff₀ (by positivity) (Nat.cast_pos.mpr hq), mul_comm _ (q : ℚ), mul_comm _ (2 : ℚ),
    mul_left_comm]
  exact_mod_cast Iff.rfl

/-- A quotient is rounded to the nearest rank. -/
theorem isNearest_nearestUnbounded : f.IsNearest (p / q) (f.nearestUnbounded p q) := by
  obtain ⟨hlow, hhigh⟩ := f.units_rankBelow_div (p * f.unitsPerOne) hq
  unfold nearestUnbounded
  generalize f.rankBelow (p * f.unitsPerOne / q) = n at hlow hhigh ⊢
  have hbelow := (magnitude_le_div_iff (f := f) hq).mpr hlow
  have habove : (p / q : ℚ) < f.magnitude (n + 1) := by
    rw [← not_le, magnitude_le_div_iff hq]
    exact Nat.not_le_of_lt hhigh
  have hlower := low_of_magnitude_le hbelow
  have hupper := lt_middle_of_le_magnitude habove.le
  dsimp only
  split
  · next hlt => exact Owns.isNearest ⟨hlower, .inl ((div_lt_middle_iff hq).mpr hlt)⟩
  · split
    · next hgt => exact Owns.isNearest ⟨.inl ((middle_lt_div_iff hq).mpr hgt), .inl hupper⟩
    · -- in the middle the parity decides
      next hnotlt hnotgt =>
      have hmiddle : (p / q : ℚ) = f.middle n (n + 1) := by
        refine le_antisymm (not_lt.mp ?_) (not_lt.mp ?_)
        · rwa [middle_lt_div_iff hq]
        · rwa [div_lt_middle_iff hq]
      rcases Nat.mod_two_eq_zero_or_one n with heven | hodd
      · rw [heven]
        exact Owns.isNearest ⟨hlower, .inr ⟨heven, hmiddle⟩⟩
      · rw [hodd]
        exact Owns.isNearest ⟨.inr ⟨by omega, hmiddle⟩, .inl hupper⟩

end Quotients

end BinaryFormat

namespace Floating

variable {f : BinaryFormat}

/-! ## Rounded numbers -/

/-- The number that a sign and a magnitude are rounded to: that of the nearest rank, or infinity
when this rank is too large for the format. -/
structure IsRounded (negative : Bool) (r : ℚ) (x : Floating f) : Prop where
  negative : x.negative = negative
  rank : ∃ n, f.IsNearest r n ∧ x.rank = min n f.infinityRank

/-- A bit pattern is put together from its sign and its rank. -/
theorem toNat_bits (x : Floating f) :
    (if x.negative then signWeight f else 0) + x.rank = x.bits.toNat := by
  have hwidth : 2 ^ (1 + f.exponentBits + f.fractionBits) = 2 * signWeight f := by
    rw [signWeight, Nat.add_assoc, Nat.pow_add, Nat.pow_one]
  have hlt : x.bits.toNat < 2 * signWeight f := hwidth ▸ x.bits.isLt
  unfold Floating.negative Floating.rank
  by_cases h : signWeight f ≤ x.bits.toNat
  · rw [decide_eq_true h, if_pos rfl, Nat.mod_eq_sub_mod h, Nat.mod_eq_of_lt (by omega)]
    omega
  · rw [decide_eq_false h, if_neg Bool.false_ne_true, Nat.mod_eq_of_lt (by omega), Nat.zero_add]

/-- A number is its sign and its rank. -/
theorem ext_rank {x y : Floating f} (hnegative : x.negative = y.negative)
    (hrank : x.rank = y.rank) : x = y := by
  have hbits : x.bits = y.bits := by
    refine BitVec.eq_of_toNat_eq ?_
    rw [← x.toNat_bits, ← y.toNat_bits, hnegative, hrank]
  exact congrArg mk hbits

/-- A sign and a magnitude are rounded to one number. -/
theorem IsRounded.unique {negative : Bool} {r : ℚ} {x y : Floating f}
    (hx : x.IsRounded negative r) (hy : y.IsRounded negative r) : x = y := by
  obtain ⟨m, hm, hxrank⟩ := hx.rank
  obtain ⟨n, hn, hyrank⟩ := hy.rank
  refine ext_rank (hx.negative.trans hy.negative.symm) ?_
  rw [hxrank, hyrank, hm.unique hn]

theorem isRounded_ofRatio (negative : Bool) (p : Nat) {q : Nat} (hq : 0 < q) :
    (ofRatio negative p q : Floating f).IsRounded negative (p / q) where
  negative := negative_ofRatio negative p q
  rank := ⟨_, BinaryFormat.isNearest_nearestUnbounded hq, rank_ofRatio negative p q⟩

/-- Rounding a quotient gives the number that its sign and magnitude are rounded to, and only this
one. -/
theorem isRounded_iff {negative : Bool} {p q : Nat} (hq : 0 < q) {x : Floating f} :
    x.IsRounded negative (p / q) ↔ x = ofRatio negative p q := by
  have hratio := isRounded_ofRatio (f := f) negative p hq
  refine ⟨fun h => h.unique hratio, ?_⟩
  rintro rfl
  exact hratio

/-- A finite number is what the magnitudes in its interval are rounded to. -/
theorem isRounded_of_owns {x : Floating f} (hx : x.isFinite = true) {r : ℚ}
    (h : f.Owns x.rank r) : x.IsRounded x.negative r := by
  have hlt : x.rank < f.infinityRank := of_decide_eq_true hx
  exact ⟨rfl, x.rank, h.isNearest, (Nat.min_eq_left hlt.le).symm⟩

end Floating

end SolrRequest.Number

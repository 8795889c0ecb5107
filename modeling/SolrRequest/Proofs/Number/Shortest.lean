import Mathlib.Algebra.Order.Field.Power
import Mathlib.Tactic.LinearCombination
import Mathlib.Tactic.NormNum
import SolrRequest.Proofs.Number.Nearest

/-!
# Shortest decimals lie in their interval

The search for a short decimal compares naturals, which are scaled so that no fraction is left. What
it compares is the decimal itself with the middles around a rank (`BinaryFormat.ownsDecimal_iff`).
On each grid it takes a neighbour of the magnitude that lies in the interval of the rank, the nearer
one if both do (`BinaryFormat.onGrid?_spec`). The exact decimal, which is taken when no grid has
one, lies in the interval as well (`BinaryFormat.owns_shortest`).
-/

namespace SolrRequest.Number

-- Powers are those of the core library, whatever else is imported.
attribute [local instance (1100)] instPowNat

namespace ScaledDecimal

/-- The number that a decimal stands for. -/
def value (d : ScaledDecimal) : ℚ :=
  d.digits * 10 ^ d.exponent

theorem value_nonneg (d : ScaledDecimal) : 0 ≤ d.value := by
  unfold value
  positivity

theorem value_zero (e : Int) : value ⟨0, e⟩ = 0 := by
  rw [value, Nat.cast_zero, zero_mul]

theorem value_stripZeros (d : ScaledDecimal) : d.stripZeros.value = d.value := by
  fun_induction stripZeros d with
  | case1 d h ih =>
    have hdigits : d.digits = d.digits / 10 * 10 := by omega
    rw [ih, value, value, zpow_add_one₀ (by norm_num), mul_comm _ (10 : ℚ), ← mul_assoc]
    conv_rhs => rw [hdigits]
    push_cast
    rfl
  | case2 => rfl

/-- A power of ten as a quotient of powers with natural exponents. -/
theorem ten_zpow_mul (e : Int) : (10 : ℚ) ^ e * 10 ^ (-e).toNat = 10 ^ e.toNat := by
  rw [← zpow_natCast, ← zpow_natCast, ← zpow_add₀ (by norm_num)]
  congr 1
  omega

end ScaledDecimal

namespace BinaryFormat

variable {f : BinaryFormat} {n d : Nat} {e : Int}

/-! ## Comparisons -/

theorem middle_eq (f : BinaryFormat) (m n : Nat) :
    f.middle m n = (f.units m + f.units n : Nat) / (2 * f.unitsPerOne) := by
  unfold middle magnitude
  push_cast
  rw [← add_div, div_div, mul_comm (2 : ℚ)]

/-- The naturals that are compared are the numbers, scaled by one factor. -/
theorem compareHalves_eq (f : BinaryFormat) (d : Nat) (e : Int) (halves : Nat) :
    f.compareHalves d e halves =
      compare (ScaledDecimal.value ⟨d, e⟩) (halves / (2 * f.unitsPerOne)) := by
  have hone : (0 : ℚ) < 2 * f.unitsPerOne := by
    have hpos := f.unitsPerOne_pos
    positivity
  have hscale : (0 : ℚ) < 2 * f.unitsPerOne * 10 ^ (-e).toNat := by positivity
  have hleft : ScaledDecimal.value ⟨d, e⟩ * (2 * f.unitsPerOne * 10 ^ (-e).toNat) =
      (d * 10 ^ e.toNat * (2 * f.unitsPerOne) : Nat) := by
    have hten := ScaledDecimal.ten_zpow_mul e
    push_cast
    rw [ScaledDecimal.value]
    linear_combination (d * (2 * f.unitsPerOne) : ℚ) * hten
  have hright : (halves / (2 * f.unitsPerOne) : ℚ) * (2 * f.unitsPerOne * 10 ^ (-e).toNat) =
      (halves * 10 ^ (-e).toNat : Nat) := by
    rw [← mul_assoc, div_mul_cancel₀ _ hone.ne']
    push_cast
    rfl
  rw [← cmp_eq_compare, ← cmp_mul_pos_right hscale, hleft, hright,
    Nat.strictMono_cast.cmp_map_eq, cmp_eq_compare]
  rfl

/-- The test is exact. -/
theorem ownsDecimal_iff :
    f.ownsDecimal n d e = true ↔ f.Owns n (ScaledDecimal.value ⟨d, e⟩) := by
  have hlow := f.compareHalves_eq d e (f.units (n - 1) + f.units n)
  have hhigh := f.compareHalves_eq d e (f.units n + f.units (n + 1))
  rw [← middle_eq] at hlow hhigh
  unfold ownsDecimal
  rw [hlow, hhigh]
  simp only [Bool.and_eq_true, Bool.or_eq_true, beq_iff_eq, compare_gt_iff_gt, compare_lt_iff_lt,
    compare_eq_iff_eq]
  exact ⟨fun h => ⟨h.1, h.2⟩, fun h => ⟨h.low, h.high⟩⟩

/-- Comparing with all halves of a rank is comparing with its magnitude. -/
theorem compareHalves_units (f : BinaryFormat) (d : Nat) (e : Int) (n : Nat) :
    f.compareHalves d e (2 * f.units n) =
      compare (ScaledDecimal.value ⟨d, e⟩) (f.magnitude n) := by
  rw [compareHalves_eq, magnitude, Nat.cast_mul, Nat.cast_two, mul_div_mul_left _ _ two_ne_zero]

/-- Two neighbours are told apart by their middle. -/
theorem compareHalves_neighbours (f : BinaryFormat) (d : Nat) (e : Int) (n : Nat) :
    f.compareHalves (d + (d + 1)) e (4 * f.units n) =
      compare ((ScaledDecimal.value ⟨d, e⟩ + ScaledDecimal.value ⟨d + 1, e⟩) / 2)
        (f.magnitude n) := by
  have htwo : (0 : ℚ) < 2 := by norm_num
  have hsum : ScaledDecimal.value ⟨d + (d + 1), e⟩ =
      (ScaledDecimal.value ⟨d, e⟩ + ScaledDecimal.value ⟨d + 1, e⟩) / 2 * 2 := by
    rw [div_mul_cancel₀ _ htwo.ne', ScaledDecimal.value, ScaledDecimal.value, ScaledDecimal.value,
      Nat.cast_add, add_mul]
  have hhalves : ((4 * f.units n : Nat) / (2 * f.unitsPerOne) : ℚ) = f.magnitude n * 2 := by
    rw [magnitude, Nat.cast_mul, Nat.cast_ofNat, show (4 : ℚ) = 2 * 2 by norm_num, mul_assoc,
      mul_div_mul_left _ _ htwo.ne', div_mul_eq_mul_div, mul_comm]
  rw [compareHalves_eq, hsum, hhalves, ← cmp_eq_compare, cmp_mul_pos_right htwo, cmp_eq_compare]

/-! ## The grid -/

theorem le_gridBelow_iff : d ≤ f.gridBelow n e ↔ ScaledDecimal.value ⟨d, e⟩ ≤ f.magnitude n := by
  have hpos : 0 < 10 ^ e.toNat * f.unitsPerOne :=
    Nat.mul_pos (Nat.pow_pos (by decide)) f.unitsPerOne_pos
  have hscaled : d * (10 ^ e.toNat * f.unitsPerOne) ≤ f.units n * 10 ^ (-e).toNat ↔
      d * 10 ^ e.toNat * (2 * f.unitsPerOne) ≤ 2 * f.units n * 10 ^ (-e).toNat := by
    rw [Nat.mul_left_comm _ 2, Nat.mul_assoc 2, Nat.mul_le_mul_left_iff Nat.two_pos, Nat.mul_assoc]
  rw [gridBelow, Nat.le_div_iff_mul_le hpos, hscaled, ← compare_le_iff_le, ← compare_le_iff_le,
    ← compareHalves_units]
  rfl

theorem value_gridBelow_le (f : BinaryFormat) (n : Nat) (e : Int) :
    ScaledDecimal.value ⟨f.gridBelow n e, e⟩ ≤ f.magnitude n :=
  le_gridBelow_iff.mp (Nat.le_refl _)

theorem lt_value_gridAbove (f : BinaryFormat) (n : Nat) (e : Int) :
    f.magnitude n < ScaledDecimal.value ⟨f.gridBelow n e + 1, e⟩ :=
  not_le.mp fun h => Nat.not_succ_le_self _ (le_gridBelow_iff.mpr h)

/-- One of the two multiples of a power of ten that are next to the magnitude. -/
def IsNeighbour (f : BinaryFormat) (n : Nat) (e : Int) (d : Nat) : Prop :=
  d = f.gridBelow n e ∨ d = f.gridBelow n e + 1

theorem abs_above_sub_le (hd : f.IsNeighbour n e d)
    (h : (ScaledDecimal.value ⟨f.gridBelow n e, e⟩ +
      ScaledDecimal.value ⟨f.gridBelow n e + 1, e⟩) / 2 ≤ f.magnitude n) :
    |ScaledDecimal.value ⟨f.gridBelow n e + 1, e⟩ - f.magnitude n| ≤
      |ScaledDecimal.value ⟨d, e⟩ - f.magnitude n| := by
  have hlt := (f.value_gridBelow_le n e).trans_lt (f.lt_value_gridAbove n e)
  rcases hd with rfl | rfl
  · rwa [abs_sub_comm, abs_sub_comm _ (f.magnitude n), abs_sub_le_abs_sub_iff_middle hlt]
  · exact le_refl _

theorem abs_below_sub_le (hd : f.IsNeighbour n e d)
    (h : f.magnitude n ≤ (ScaledDecimal.value ⟨f.gridBelow n e, e⟩ +
      ScaledDecimal.value ⟨f.gridBelow n e + 1, e⟩) / 2) :
    |ScaledDecimal.value ⟨f.gridBelow n e, e⟩ - f.magnitude n| ≤
      |ScaledDecimal.value ⟨d, e⟩ - f.magnitude n| := by
  have hlt := (f.value_gridBelow_le n e).trans_lt (f.lt_value_gridAbove n e)
  rcases hd with rfl | rfl
  · exact le_refl _
  · rwa [abs_sub_comm, abs_sub_comm _ (f.magnitude n), abs_sub_le_abs_sub_iff_middle' hlt]

theorem onGrid?_ne_none (tie : Tie) (hd : f.IsNeighbour n e d)
    (howns : f.ownsDecimal n d e = true) : f.onGrid? tie n e ≠ none := by
  intro h
  unfold onGrid? at h
  dsimp only at h
  split at h
  · next hbelow habove =>
    rcases hd with rfl | rfl
    · exact Bool.false_ne_true (hbelow.symm.trans howns)
    · exact Bool.false_ne_true (habove.symm.trans howns)
  · cases h
  · cases h
  · split at h
    · cases h
    · cases h
    · cases tie <;> cases h

/-- What is found on a grid is a neighbour of the magnitude that has been tested, and the nearer one
if both have. -/
theorem onGrid?_spec {tie : Tie} {r : ScaledDecimal} (h : f.onGrid? tie n e = some r) :
    ∃ d, r = ⟨d, e⟩ ∧ f.IsNeighbour n e d ∧ f.ownsDecimal n d e = true ∧
      ∀ c, f.IsNeighbour n e c → f.ownsDecimal n c e = true →
        |r.value - f.magnitude n| ≤ |ScaledDecimal.value ⟨c, e⟩ - f.magnitude n| := by
  unfold onGrid? at h
  dsimp only at h
  rw [compareHalves_neighbours] at h
  split at h
  · cases h
  · next hbelow habove =>
    cases h
    refine ⟨_, rfl, .inl rfl, hbelow, ?_⟩
    rintro c (rfl | rfl) hc
    · exact le_refl _
    · exact absurd (habove.symm.trans hc) Bool.false_ne_true
  · next hbelow habove =>
    cases h
    refine ⟨_, rfl, .inr rfl, habove, ?_⟩
    rintro c (rfl | rfl) hc
    · exact absurd (hbelow.symm.trans hc) Bool.false_ne_true
    · exact le_refl _
  · next hbelow habove =>
    split at h
    · next hcompare =>
      cases h
      exact ⟨_, rfl, .inr rfl, habove,
        fun c hc _ => abs_above_sub_le hc (compare_lt_iff_lt.mp hcompare).le⟩
    · next hcompare =>
      cases h
      exact ⟨_, rfl, .inl rfl, hbelow,
        fun c hc _ => abs_below_sub_le hc (compare_gt_iff_gt.mp hcompare).le⟩
    · -- the tie decides, and either of them is as near
      next hcompare =>
      have heq := compare_eq_iff_eq.mp hcompare
      have takesAbove : ∀ c, f.IsNeighbour n e c → f.ownsDecimal n c e = true → _ :=
        fun c hc _ => abs_above_sub_le hc heq.le
      have takesBelow : ∀ c, f.IsNeighbour n e c → f.ownsDecimal n c e = true → _ :=
        fun c hc _ => abs_below_sub_le hc heq.ge
      cases tie with
      | up =>
        cases h
        exact ⟨_, rfl, .inr rfl, habove, takesAbove⟩
      | even =>
        cases h
        rcases Nat.mod_two_eq_zero_or_one (f.gridBelow n e) with heven | hodd
        · rw [heven]
          exact ⟨_, rfl, .inl rfl, hbelow, takesBelow⟩
        · rw [hodd]
          exact ⟨_, rfl, .inr rfl, habove, takesAbove⟩

/-- What is found on a grid lies in the interval. -/
theorem owns_of_onGrid? {tie : Tie} {r : ScaledDecimal} (h : f.onGrid? tie n e = some r) :
    f.Owns n r.value := by
  obtain ⟨d, rfl, -, howns, -⟩ := onGrid?_spec h
  exact ownsDecimal_iff.mp howns

/-! ## The search -/

/-- The exact decimal is the magnitude itself. -/
theorem value_exactDecimal (f : BinaryFormat) (n : Nat) :
    (f.exactDecimal n).value = f.magnitude n := by
  have hten : (10 : ℚ) ^ f.unitBits = 2 ^ f.unitBits * 5 ^ f.unitBits := by
    rw [← mul_pow]
    norm_num
  unfold exactDecimal ScaledDecimal.value magnitude unitsPerOne
  push_cast
  rw [zpow_neg, zpow_natCast, hten, ← div_eq_mul_inv, mul_div_mul_right _ _ (by positivity)]

/-- The short decimal of a rank lies in the interval of that rank. -/
theorem owns_shortest (f : BinaryFormat) (tie : Tie) (n : Nat) :
    f.Owns n (f.shortest tie n).value := by
  unfold shortest
  rw [ScaledDecimal.value_stripZeros]
  cases hfound : (List.range 17).findSome?
      fun i : Nat => f.onGrid? tie n (f.decimalScale n - 1 - i) with
  | none =>
    rw [Option.getD_none, value_exactDecimal]
    exact f.owns_magnitude n
  | some r =>
    obtain ⟨i, -, hi⟩ := List.exists_of_findSome?_eq_some hfound
    exact owns_of_onGrid? hi

end BinaryFormat

/-- The decimal of a number lies in the interval of its rank. -/
theorem Floating.owns_decimal {f : BinaryFormat} (x : Floating f) (tie : Tie) :
    f.Owns x.rank (x.decimal tie).value := by
  unfold Floating.decimal
  split
  · next hzero =>
    have hvalue : ScaledDecimal.value ⟨0, 0⟩ = f.magnitude x.rank := by
      rw [beq_iff_eq.mp hzero, f.magnitude_zero, ScaledDecimal.value_zero]
    rw [hvalue]
    exact f.owns_magnitude x.rank
  · exact f.owns_shortest tie x.rank

end SolrRequest.Number

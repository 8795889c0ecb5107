import SolrRequest.Proofs.Number.Plain

/-!
# Rounding

The magnitudes of a format grow with their rank, and `BinaryFormat.rankBelow` finds the two
neighbours between which a magnitude lies (`BinaryFormat.units_rankBelow`). Hence a quotient is
rounded to infinity exactly when it is not below the middle of the largest finite magnitude and the
one that would come next (`BinaryFormat.nearest_lt_infinityRank_iff`). The middle itself is rounded
up, since the largest finite rank is odd. A product of finite numbers is finite below that limit,
and infinite from there on (`Floating.isFinite_mul_iff`, `Floating.isInfinite_mul`).
-/

namespace SolrRequest.Number

-- Powers are those of the core library, whatever else is imported.
attribute [local instance (1100)] instPowNat

namespace BinaryFormat

variable {f : BinaryFormat}

/-! ## Magnitudes of ranks -/

/-- The magnitudes of one exponent, and the first one of the next, are multiples of one power. -/
theorem units_scaled {q : Nat} (e : Nat) (hleast : 2 ^ f.fractionBits ≤ q)
    (hmost : q ≤ 2 * 2 ^ f.fractionBits) : f.units (e * 2 ^ f.fractionBits + q) = q * 2 ^ e := by
  have hpos : 0 < 2 ^ f.fractionBits := Nat.two_pow_pos _
  unfold units
  generalize 2 ^ f.fractionBits = b at *
  by_cases hlast : q = 2 * b
  · have hsum : e * b + q = (e + 2) * b := by
      rw [hlast, Nat.add_mul]
    rw [hsum, Nat.mul_div_cancel _ hpos, Nat.mul_mod_left, if_neg (Nat.succ_ne_zero _), hlast]
    show (b + 0) * 2 ^ (e + 1) = 2 * b * 2 ^ e
    rw [Nat.pow_succ, Nat.add_zero, Nat.mul_comm (2 ^ e) 2, ← Nat.mul_assoc, Nat.mul_comm b 2]
  · obtain ⟨r, rfl⟩ := Nat.exists_eq_add_of_le hleast
    have hsum : e * b + (b + r) = r + b * (e + 1) := by
      rw [Nat.mul_add, Nat.mul_one, Nat.mul_comm b e]
      omega
    have hr : r < b := by omega
    rw [hsum, Nat.add_mul_div_left _ _ hpos, Nat.add_mul_mod_self_left, Nat.div_eq_of_lt hr,
      Nat.mod_eq_of_lt hr, Nat.zero_add, if_neg (Nat.succ_ne_zero _), Nat.add_sub_cancel]

theorem units_mono {m n : Nat} (h : m ≤ n) : f.units m ≤ f.units n := by
  induction h with
  | refl => exact Nat.le_refl _
  | step _ ih => exact Nat.le_trans ih (Nat.le_of_lt (f.units_lt_succ _))

/-- A magnitude lies between two neighbours. -/
theorem units_rankBelow (f : BinaryFormat) (t : Nat) :
    f.units (f.rankBelow t) ≤ t ∧ t < f.units (f.rankBelow t + 1) := by
  unfold rankBelow
  by_cases hsmall : t < 2 ^ f.fractionBits
  · -- below the first power every magnitude is a rank
    have hlog : t.log2 - f.fractionBits = 0 := by
      rcases Nat.eq_zero_or_pos t with rfl | ht
      · rw [Nat.log2_zero, Nat.zero_sub]
      · have hlt := (Nat.log2_lt (Nat.ne_of_gt ht)).mpr hsmall
        omega
    have hunits := f.units_of_small hsmall
    have hnext := f.units_lt_succ t
    rw [hlog, Nat.zero_mul, Nat.zero_add, Nat.pow_zero, Nat.div_one]
    omega
  · have ht : t ≠ 0 := by
      rintro rfl
      exact hsmall (Nat.two_pow_pos _)
    have hlog := (Nat.le_log2 ht).mpr (Nat.le_of_not_lt hsmall)
    obtain ⟨e, he⟩ := Nat.exists_eq_add_of_le hlog
    have hstep : 0 < 2 ^ e := Nat.two_pow_pos _
    have hlow : 2 ^ f.fractionBits ≤ t / 2 ^ e := by
      rw [Nat.le_div_iff_mul_le hstep, ← Nat.pow_add, ← he]
      exact Nat.log2_self_le ht
    have hhigh : t / 2 ^ e < 2 * 2 ^ f.fractionBits := by
      rw [Nat.div_lt_iff_lt_mul hstep, Nat.mul_assoc, ← Nat.pow_add, ← he, Nat.mul_comm,
        ← Nat.pow_succ]
      exact Nat.lt_log2_self
    have hrest := Nat.div_add_mod t (2 ^ e)
    have hmod := Nat.mod_lt t hstep
    rw [he, Nat.add_sub_cancel_left, Nat.add_assoc, units_scaled e hlow (Nat.le_of_lt hhigh),
      units_scaled e (Nat.le_succ_of_le hlow) hhigh, Nat.succ_mul, Nat.mul_comm _ (2 ^ e)]
    omega

/-- A quotient lies between two neighbours. -/
theorem units_rankBelow_div (f : BinaryFormat) (t : Nat) {q : Nat} (hq : 0 < q) :
    q * f.units (f.rankBelow (t / q)) ≤ t ∧ t < q * f.units (f.rankBelow (t / q) + 1) := by
  obtain ⟨hlow, hhigh⟩ := f.units_rankBelow (t / q)
  rw [Nat.mul_comm q, Nat.mul_comm q]
  exact ⟨(Nat.le_div_iff_mul_le hq).mp hlow, (Nat.div_lt_iff_lt_mul hq).mp hhigh⟩

/-- It is rounded to one of them. -/
theorem nearestUnbounded_bounds (f : BinaryFormat) (p q : Nat) :
    f.rankBelow (p * f.unitsPerOne / q) ≤ f.nearestUnbounded p q ∧
      f.nearestUnbounded p q ≤ f.rankBelow (p * f.unitsPerOne / q) + 1 := by
  unfold nearestUnbounded
  dsimp only
  split
  · omega
  · split <;> omega

theorem nearest_zero {q : Nat} (hq : 0 < q) : f.nearest 0 q = 0 := by
  have hbelow : f.rankBelow 0 = 0 := by
    rw [rankBelow, Nat.log2_zero, Nat.zero_sub, Nat.zero_mul, Nat.zero_div]
  have hnext : 0 < f.units (0 + 1) := Nat.lt_of_le_of_lt (Nat.zero_le _) (f.units_lt_succ 0)
  have hmiddle : 2 * 0 < q * (f.units 0 + f.units (0 + 1)) :=
    Nat.mul_pos hq (Nat.add_pos_right _ hnext)
  unfold nearest nearestUnbounded
  rw [Nat.zero_mul, Nat.zero_div, hbelow]
  dsimp only
  rw [if_pos hmiddle, Nat.zero_min]

/-! ## Overflow -/

/-- Twice the magnitude from which on everything is rounded to infinity. -/
def overflowUnits (f : BinaryFormat) : Nat :=
  f.units (f.infinityRank - 1) + f.units f.infinityRank

theorem infinityRank_pos (h : 0 < f.exponentBits) : 0 < f.infinityRank := by
  have hexponent : 1 < 2 ^ f.exponentBits := Nat.one_lt_two_pow (Nat.ne_of_gt h)
  exact Nat.mul_pos (Nat.sub_pos_of_lt hexponent) (Nat.two_pow_pos _)

theorem infinityRank_even (h : 0 < f.fractionBits) : f.infinityRank % 2 = 0 := by
  obtain ⟨k, hk⟩ := Nat.exists_eq_succ_of_ne_zero (Nat.ne_of_gt h)
  rw [infinityRank, hk, Nat.pow_succ, ← Nat.mul_assoc, Nat.mul_mod_left]

/-- Between the largest finite rank and infinity, which is even, the middle decides. -/
theorem nearestUnbounded_lt_iff {p q n : Nat} (hn : f.rankBelow (p * f.unitsPerOne / q) = n)
    (heven : (n + 1) % 2 = 0) :
    f.nearestUnbounded p q < n + 1 ↔
      2 * (p * f.unitsPerOne) < q * (f.units n + f.units (n + 1)) := by
  unfold nearestUnbounded
  rw [hn]
  dsimp only
  split
  · omega
  · split <;> omega

/-- A quotient stays finite exactly when it is below the middle of the largest finite magnitude and
the next one. -/
theorem nearest_lt_infinityRank_iff (hexponent : 0 < f.exponentBits)
    (hfraction : 0 < f.fractionBits) (p : Nat) {q : Nat} (hq : 0 < q) :
    f.nearest p q < f.infinityRank ↔ 2 * (p * f.unitsPerOne) < q * f.overflowUnits := by
  obtain ⟨last, hlast⟩ :=
    Nat.exists_eq_add_one_of_ne_zero (Nat.ne_of_gt (infinityRank_pos hexponent))
  have heven : (last + 1) % 2 = 0 := by
    rw [← hlast]
    exact infinityRank_even hfraction
  have hunbounded : f.nearest p q < f.infinityRank ↔ f.nearestUnbounded p q < last + 1 := by
    rw [nearest, hlast]
    omega
  rw [hunbounded, overflowUnits, hlast, Nat.add_sub_cancel]
  obtain ⟨hlow, hhigh⟩ := f.units_rankBelow_div (p * f.unitsPerOne) hq
  obtain ⟨hleast, hmost⟩ := f.nearestUnbounded_bounds p q
  have hstep := Nat.mul_le_mul_left q (units_mono (f := f) (show last ≤ last + 1 by omega))
  generalize hn : f.rankBelow (p * f.unitsPerOne / q) = n at *
  rcases Nat.lt_trichotomy n last with hbelow | rfl | habove
  · -- both neighbours are finite
    have hfinite := Nat.mul_le_mul_left q (units_mono (f := f) (show n + 1 ≤ last by omega))
    refine iff_of_true (by omega) ?_
    rw [Nat.mul_add]
    omega
  · exact nearestUnbounded_lt_iff hn heven
  · -- neither of them is
    have hinfinite := Nat.mul_le_mul_left q (units_mono (f := f) (show last + 1 ≤ n by omega))
    refine iff_of_false (by omega) ?_
    rw [Nat.mul_add]
    omega

end BinaryFormat

namespace Floating

variable {f : BinaryFormat}

/-! ## Signs and ranks -/

theorem toNat_ofRank {rank : Nat} (negative : Bool) (h : rank < signWeight f) :
    (ofRank negative rank : Floating f).bits.toNat =
      (if negative then signWeight f else 0) + rank := by
  have hwidth : 2 ^ (1 + f.exponentBits + f.fractionBits) = 2 * signWeight f := by
    rw [signWeight, Nat.add_assoc, Nat.pow_add, Nat.pow_one]
  show (BitVec.ofNat _ _).toNat = _
  rw [BitVec.toNat_ofNat, hwidth, Nat.mod_eq_of_lt]
  split <;> omega

theorem negative_ofRank {rank : Nat} (negative : Bool) (h : rank < signWeight f) :
    (ofRank negative rank : Floating f).negative = negative := by
  unfold Floating.negative
  rw [toNat_ofRank negative h]
  cases negative with
  | false => exact decide_eq_false (by simpa using h)
  | true => exact decide_eq_true (Nat.le_add_right _ _)

theorem rank_ofRank {rank : Nat} (negative : Bool) (h : rank < signWeight f) :
    (ofRank negative rank : Floating f).rank = rank := by
  unfold Floating.rank
  rw [toNat_ofRank negative h]
  cases negative with
  | false => rw [if_neg Bool.false_ne_true, Nat.zero_add, Nat.mod_eq_of_lt h]
  | true => rw [if_pos rfl, Nat.add_mod_left, Nat.mod_eq_of_lt h]

theorem infinityRank_lt_signWeight (f : BinaryFormat) : f.infinityRank < signWeight f := by
  rw [BinaryFormat.infinityRank, signWeight, Nat.pow_add]
  exact Nat.mul_lt_mul_of_pos_right (Nat.sub_lt (Nat.two_pow_pos _) Nat.one_pos) (Nat.two_pow_pos _)

theorem nearest_lt_signWeight (p q : Nat) : f.nearest p q < signWeight f :=
  Nat.lt_of_le_of_lt (Nat.min_le_right _ _) (infinityRank_lt_signWeight f)

theorem negative_ofRatio (negative : Bool) (p q : Nat) :
    (ofRatio negative p q : Floating f).negative = negative :=
  negative_ofRank negative (nearest_lt_signWeight p q)

theorem rank_ofRatio (negative : Bool) (p q : Nat) :
    (ofRatio negative p q : Floating f).rank = f.nearest p q :=
  rank_ofRank negative (nearest_lt_signWeight p q)

/-- What is rounded is a number, finite or infinite. -/
theorem isInfinite_ofRatio (negative : Bool) (p q : Nat) :
    (ofRatio negative p q : Floating f).isInfinite =
      !(ofRatio negative p q : Floating f).isFinite := by
  have hle : f.nearest p q ≤ f.infinityRank := Nat.min_le_right _ _
  rw [isInfinite, isFinite, rank_ofRatio, Bool.eq_iff_iff]
  simp only [beq_iff_eq, Bool.not_eq_true', decide_eq_false_iff_not]
  omega

/-- Zero is exact. -/
theorem isZero_ofRatio_zero (negative : Bool) {q : Nat} (hq : 0 < q) :
    (ofRatio negative 0 q : Floating f).isZero = true := by
  rw [isZero, rank_ofRatio, BinaryFormat.nearest_zero hq]
  rfl

theorem text_of_isInfinite {x : Floating f} (h : x.isInfinite = true) :
    x.text = if x.negative then "-Infinity" else "Infinity" := by
  have hnan : x.isNaN = false := by
    rw [isInfinite, beq_iff_eq] at h
    rw [isNaN, h]
    exact decide_eq_false (Nat.lt_irrefl _)
  rw [text, hnan, h]
  rfl

/-! ## Products -/

section Products

variable {x y : Floating f}

theorem mul_of_isFinite (hx : x.isFinite = true) (hy : y.isFinite = true) :
    x.mul y = ofRatio (x.negative != y.negative) (x.units * y.units)
      (f.unitsPerOne * f.unitsPerOne) := by
  obtain ⟨hxNaN, hxInfinite⟩ := finite_cases hx
  obtain ⟨hyNaN, hyInfinite⟩ := finite_cases hy
  unfold mul
  rw [hxNaN, hyNaN, hxInfinite, hyInfinite]
  rfl

theorem negative_mul (hx : x.isFinite = true) (hy : y.isFinite = true) :
    (x.mul y).negative = (x.negative != y.negative) := by
  rw [mul_of_isFinite hx hy, negative_ofRatio]

theorem isZero_mul (hx : x.isFinite = true) (hy : y.isFinite = true) (hzero : x.isZero = true) :
    (x.mul y).isZero = true := by
  have hone : 0 < f.unitsPerOne := Nat.two_pow_pos _
  have hunits : x.units = 0 := by
    rw [units, beq_iff_eq.mp hzero]
    exact f.units_of_small (Nat.two_pow_pos _)
  rw [mul_of_isFinite hx hy, hunits, Nat.zero_mul]
  exact isZero_ofRatio_zero _ (Nat.mul_pos hone hone)

theorem isInfinite_mul (hx : x.isFinite = true) (hy : y.isFinite = true) :
    (x.mul y).isInfinite = !(x.mul y).isFinite := by
  rw [mul_of_isFinite hx hy, isInfinite_ofRatio]

/-- A product is finite exactly when the exact one is below the limit of the format. -/
theorem isFinite_mul_iff (hexponent : 0 < f.exponentBits) (hfraction : 0 < f.fractionBits)
    (hx : x.isFinite = true) (hy : y.isFinite = true) :
    (x.mul y).isFinite = true ↔ 2 * (x.units * y.units) < f.unitsPerOne * f.overflowUnits := by
  have hone : 0 < f.unitsPerOne := Nat.two_pow_pos _
  rw [mul_of_isFinite hx hy, isFinite, decide_eq_true_iff, rank_ofRatio,
    BinaryFormat.nearest_lt_infinityRank_iff hexponent hfraction _ (Nat.mul_pos hone hone),
    ← Nat.mul_assoc, Nat.mul_right_comm f.unitsPerOne, Nat.mul_lt_mul_right hone]

end Products

end Floating

end SolrRequest.Number

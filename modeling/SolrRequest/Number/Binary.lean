/-!
# Binary floating-point formats

A format stores a sign, `exponentBits` bits of exponent and `fractionBits` bits of fraction. The
patterns without the sign are numbered `0, 1, 2, …` and are called *ranks* here; a finite pattern
of rank `n` has the magnitude `units n` times the least positive magnitude of the format, which is
`1 / unitsPerOne`. Everything is exact arithmetic on natural numbers.

* `units` gives the magnitude of a rank. It grows strictly with the rank (`units_lt_succ`).
* `nearest` gives the rank nearest to a quotient of naturals, an exact tie going to the even rank,
  and the rank of infinity for a quotient too large for the format.
-/

namespace SolrRequest.Number

-- Powers are those of the core library, whatever else is imported.
attribute [local instance (1100)] instPowNat

/-- The widths of the parts of a binary floating-point number. -/
structure BinaryFormat where
  fractionBits : Nat
  exponentBits : Nat
deriving Repr, DecidableEq

namespace BinaryFormat

/-- Double precision. -/
def binary64 : BinaryFormat where
  fractionBits := 52
  exponentBits := 11

/-- Single precision. -/
def binary32 : BinaryFormat where
  fractionBits := 23
  exponentBits := 8

variable (f : BinaryFormat)

/-- The rank of infinity: the first pattern that is no finite number. -/
def infinityRank : Nat :=
  (2 ^ f.exponentBits - 1) * 2 ^ f.fractionBits

/-- How many bits stand after the point in the least positive magnitude. -/
def unitBits : Nat :=
  2 ^ (f.exponentBits - 1) + f.fractionBits - 2

/-- How many of the least positive magnitudes make one. -/
def unitsPerOne : Nat :=
  2 ^ f.unitBits

/-- The magnitude of a rank, counted in least positive magnitudes. Ranks at or above infinity are
given the magnitudes that a wider exponent would give them. -/
def units (n : Nat) : Nat :=
  if n / 2 ^ f.fractionBits = 0 then n
  else (2 ^ f.fractionBits + n % 2 ^ f.fractionBits) * 2 ^ (n / 2 ^ f.fractionBits - 1)

/-- The greatest rank whose magnitude is at most `t` units. -/
def rankBelow (t : Nat) : Nat :=
  (t.log2 - f.fractionBits) * 2 ^ f.fractionBits + t / 2 ^ (t.log2 - f.fractionBits)

/-- The rank nearest to `p / q` without regard to the largest finite number, ties to even. -/
def nearestUnbounded (p q : Nat) : Nat :=
  let n := f.rankBelow (p * f.unitsPerOne / q)
  let twice := 2 * (p * f.unitsPerOne)
  let middle := q * (f.units n + f.units (n + 1))
  if twice < middle then n
  else if middle < twice then n + 1
  else n + n % 2

/-- The rank nearest to `p / q`, ties to even; what is too large becomes infinity. -/
def nearest (p q : Nat) : Nat :=
  min (f.nearestUnbounded p q) f.infinityRank

/-! ## Laws -/

theorem units_of_small {n : Nat} (h : n < 2 ^ f.fractionBits) : f.units n = n := by
  simp [units, Nat.div_eq_of_lt h]

/-- Between two neighbouring ranks lies at least one unit. -/
theorem units_lt_succ (n : Nat) : f.units n < f.units (n + 1) := by
  have hpos : 0 < 2 ^ f.fractionBits := Nat.two_pow_pos _
  generalize hb : 2 ^ f.fractionBits = b at hpos
  have hn := Nat.div_add_mod n b
  have hr := Nat.mod_lt n hpos
  unfold units
  rw [hb]
  by_cases hlast : n % b + 1 = b
  · have hdiv : (n + 1) / b = n / b + 1 := by
      have : n + 1 = b * (n / b + 1) := by rw [Nat.mul_add]; omega
      rw [this, Nat.mul_div_cancel_left _ hpos]
    have hmod : (n + 1) % b = 0 := by
      have : n + 1 = b * (n / b + 1) := by rw [Nat.mul_add]; omega
      rw [this, Nat.mul_mod_right]
    rw [hdiv, hmod]
    by_cases h0 : n / b = 0
    · simp only [h0, if_true]
      rw [h0] at hn
      simp
      omega
    · obtain ⟨k, hk⟩ := Nat.exists_eq_succ_of_ne_zero h0
      simp only [hk, Nat.succ_eq_add_one, Nat.add_sub_cancel, Nat.succ_ne_zero, if_false]
      rw [Nat.pow_succ, ← Nat.mul_assoc, Nat.mul_right_comm]
      exact Nat.mul_lt_mul_of_pos_right (by omega) (Nat.two_pow_pos k)
  · have hdiv : (n + 1) / b = n / b := by
      have : n + 1 = (n % b + 1) + b * (n / b) := by omega
      rw [this, Nat.add_mul_div_left _ _ hpos, Nat.div_eq_of_lt (by omega), Nat.zero_add]
    have hmod : (n + 1) % b = n % b + 1 := by
      have : n + 1 = (n % b + 1) + b * (n / b) := by omega
      rw [this, Nat.add_mul_mod_self_left, Nat.mod_eq_of_lt (by omega)]
    rw [hdiv, hmod]
    by_cases h0 : n / b = 0
    · simp [h0]
    · simp only [h0, if_false]
      exact Nat.mul_lt_mul_of_pos_right (by omega) (Nat.two_pow_pos _)

example : binary64.unitBits = 1074 ∧ binary32.unitBits = 149 := by decide

example : binary64.nearest 1 1 = 0x3FF0000000000000 := by decide +kernel

example : binary64.nearest (2 ^ 1024) 1 = 0x7FF0000000000000 := by decide +kernel

end BinaryFormat

end SolrRequest.Number

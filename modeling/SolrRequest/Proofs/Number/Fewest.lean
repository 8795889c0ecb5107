import Mathlib.Algebra.Order.Group.Pointwise.Interval
import SolrRequest.Proofs.Number.Shortest

/-!
# Fewest digits

What makes a decimal of a rank the shortest one is said by `BinaryFormat.IsShortest`: of all
decimals in the interval of the rank none has fewer digits, and none with as few is nearer to the
magnitude.
The search finds such a decimal (`BinaryFormat.isShortest_shortest`) in every format for which its
guess of the logarithm is good enough and seventeen digits are fine enough
(`BinaryFormat.IsSearchable`). Double and single precision are such formats.

A decimal of few digits need not stand on the grid of the search for as many digits: it can lie
below the leading power of ten. This power is then on the grid, between the decimal and the
magnitude (`BinaryFormat.exists_on_grid`).
-/

namespace SolrRequest.Number

-- Powers are those of the core library, whatever else is imported.
attribute [local instance (1100)] instPowNat

/-! ## Powers of ten and of two -/

/-- Powers with integer exponents are compared through two natural powers that are known. -/
theorem zpow_le_zpow_of_pow_le_pow {a b : ℚ} {p q : Nat} (ha : 0 < a) (hb : 1 ≤ b) (hp : p ≠ 0)
    (h : a ^ p ≤ b ^ q) {k t : Int} (hk : 0 ≤ k) (hkt : q * k ≤ p * t) : a ^ k ≤ b ^ t := by
  have hb' : 0 < b := zero_lt_one.trans_le hb
  refine (pow_le_pow_iff_left₀ (by positivity) (by positivity) hp).mp ?_
  calc (a ^ k) ^ p = (a ^ p) ^ k := by rw [← zpow_natCast, ← zpow_natCast, zpow_comm]
    _ ≤ (b ^ q) ^ k := zpow_le_zpow_left₀ hk (by positivity) h
    _ = b ^ (q * k) := by rw [zpow_mul, zpow_natCast]
    _ ≤ b ^ (p * t) := zpow_le_zpow_right₀ hb hkt
    _ = (b ^ t) ^ p := by rw [mul_comm, zpow_mul, zpow_natCast]

/-- The logarithm of two lies between 59 over 196 and 28 over 93. -/
theorem ten_zpow_le_two_zpow {k t : Int} (h : 196 * k ≤ 59 * t) (h' : 93 * k ≤ 28 * t) :
    (10 : ℚ) ^ k ≤ 2 ^ t := by
  rcases Int.le_total 0 k with hk | hk
  · exact zpow_le_zpow_of_pow_le_pow (p := 59) (q := 196) (by norm_num) (by norm_num) (by decide)
      (by norm_num) hk h
  · rcases Int.le_total 0 t with ht | ht
    · exact (zpow_le_one_of_nonpos₀ (by norm_num) hk).trans (one_le_zpow₀ (by norm_num) ht)
    · have hinv : (2 : ℚ) ^ (-t) ≤ 10 ^ (-k) :=
        zpow_le_zpow_of_pow_le_pow (p := 93) (q := 28) (by norm_num) (by norm_num) (by decide)
          (by norm_num) (by omega) (by push_cast; omega)
      rw [zpow_neg, zpow_neg] at hinv
      exact (inv_le_inv₀ (by positivity) (by positivity)).mp hinv

theorem two_zpow_le_ten_zpow {k t : Int} (h : 59 * t ≤ 196 * k) (h' : 28 * t ≤ 93 * k) :
    (2 : ℚ) ^ t ≤ 10 ^ k := by
  have hinv := ten_zpow_le_two_zpow (k := -k) (t := -t) (by omega) (by omega)
  rw [zpow_neg, zpow_neg] at hinv
  exact (inv_le_inv₀ (by positivity) (by positivity)).mp hinv

namespace ScaledDecimal

theorem digits_stripZeros_le (d : ScaledDecimal) : d.stripZeros.digits ≤ d.digits := by
  fun_induction stripZeros d with
  | case1 d h ih =>
    dsimp only at ih
    omega
  | case2 => exact Nat.le_refl _

/-- A power of ten is stripped down to less. -/
theorem digits_stripZeros_lt {d : ScaledDecimal} {k : Nat} (hk : k ≠ 0) (h : d.digits ≤ 10 ^ k) :
    d.stripZeros.digits < 10 ^ k := by
  rcases h.lt_or_eq with hlt | heq
  · exact d.digits_stripZeros_le.trans_lt hlt
  · obtain ⟨j, rfl⟩ := Nat.exists_eq_succ_of_ne_zero hk
    have hpos : 0 < 10 ^ j := Nat.pow_pos (by decide)
    rw [Nat.pow_succ] at heq ⊢
    rw [stripZeros, dif_pos ⟨by omega, by omega⟩]
    refine (digits_stripZeros_le _).trans_lt ?_
    show d.digits / 10 < _
    omega

end ScaledDecimal

namespace BinaryFormat

variable {f : BinaryFormat} {n : Nat}

/-! ## The width of an interval -/

/-- The neighbours of a rank are apart by its magnitude, divided by the number of fractions, or
more: the case of a rank with an exponent and a fraction. -/
theorem units_le_width_of_scaled {e q : Nat} (hleast : 2 ^ f.fractionBits ≤ q)
    (hmost : q < 2 * 2 ^ f.fractionBits) (hn : n = e * 2 ^ f.fractionBits + q) :
    f.units n + 2 ^ f.fractionBits * f.units (n - 1) ≤ 2 ^ f.fractionBits * f.units (n + 1) := by
  have hself : f.units n = q * 2 ^ e := hn ▸ units_scaled e hleast hmost.le
  have hnext : f.units (n + 1) = (q + 1) * 2 ^ e := by
    rw [hn, Nat.add_assoc, units_scaled e (by omega) hmost]
  have hprevious : 2 ^ f.fractionBits < q → f.units (n - 1) = (q - 1) * 2 ^ e := by
    intro hlt
    rw [hn, Nat.add_sub_assoc (by omega), units_scaled e (by omega) (by omega)]
  have hbelow : f.units (n - 1) ≤ f.units n := units_mono (Nat.sub_le n 1)
  rw [hself] at hbelow ⊢
  rw [hnext]
  generalize 2 ^ f.fractionBits = b at *
  generalize 2 ^ e = p at *
  have hstep : b * ((q + 1) * p) = b * (q * p) + b * p := by
    rw [Nat.succ_mul, Nat.mul_add]
  rcases hleast.eq_or_lt with rfl | hlt
  · -- the first fraction: the gap above is wide enough alone
    have hmul := Nat.mul_le_mul_left b hbelow
    omega
  · obtain ⟨r, rfl⟩ : ∃ r, q = r + 1 := ⟨q - 1, by omega⟩
    have hgap : (r + 1) * p ≤ 2 * (b * p) := by
      rw [← Nat.mul_assoc]
      exact Nat.mul_le_mul_right p hmost.le
    have hsucc : b * ((r + 1) * p) = b * (r * p) + b * p := by
      rw [Nat.succ_mul, Nat.mul_add]
    rw [hprevious hlt, Nat.add_sub_cancel]
    omega

theorem units_le_width (hn : n ≠ 0) :
    f.units n + 2 ^ f.fractionBits * f.units (n - 1) ≤ 2 ^ f.fractionBits * f.units (n + 1) := by
  have hpos : 0 < 2 ^ f.fractionBits := Nat.two_pow_pos _
  rcases Nat.lt_or_ge n (2 ^ f.fractionBits) with hlt | hge
  · obtain ⟨m, rfl⟩ : ∃ m, n = m + 1 := ⟨n - 1, by omega⟩
    have hnext := f.units_lt_succ (m + 1)
    rw [f.units_of_small hlt] at hnext ⊢
    rw [Nat.add_sub_cancel, f.units_of_small (by omega)]
    have hmul : 2 ^ f.fractionBits * (m + 2) ≤ 2 ^ f.fractionBits * f.units (m + 1 + 1) :=
      Nat.mul_le_mul_left _ hnext
    rw [Nat.mul_add] at hmul
    omega
  · have hmod := Nat.mod_lt n hpos
    have hdiv := Nat.div_pos hge hpos
    have hsum := Nat.div_add_mod' n (2 ^ f.fractionBits)
    refine units_le_width_of_scaled (e := n / 2 ^ f.fractionBits - 1)
      (q := 2 ^ f.fractionBits + n % 2 ^ f.fractionBits) (by omega) (by omega) ?_
    have hle := Nat.le_mul_of_pos_left (2 ^ f.fractionBits) hdiv
    rw [Nat.sub_mul]
    omega

/-! ## What a rank owns -/

/-- Between the magnitude and a number that a rank owns, the rank owns everything. -/
theorem Owns.of_mem_uIcc {r s : ℚ} (h : f.Owns n r) (hs : s ∈ Set.uIcc (f.magnitude n) r) :
    f.Owns n s := by
  rcases Set.mem_uIcc.mp hs with ⟨hlow, hhigh⟩ | ⟨hlow, hhigh⟩
  · refine ⟨low_of_magnitude_le hlow, ?_⟩
    rcases h.high with hlt | ⟨heven, rfl⟩
    · exact .inl (hhigh.trans_lt hlt)
    · exact hhigh.lt_or_eq.imp_right fun heq => ⟨heven, heq⟩
  · refine ⟨?_, .inl (lt_middle_of_le_magnitude hhigh)⟩
    rcases h.low with hlt | ⟨heven, rfl⟩
    · exact .inl (hlt.trans_le hlow)
    · exact hlow.lt_or_eq.imp_right fun heq => ⟨heven, heq.symm⟩

/-- Ranks other than zero own positive numbers only. -/
theorem Owns.pos {r : ℚ} (hn : n ≠ 0) (h : f.Owns n r) : 0 < r := by
  have hnonneg := f.magnitude_nonneg (n - 1)
  have hlt := magnitude_lt_magnitude (f := f) (show n - 1 < n by omega)
  have hmiddle : 0 < f.middle (n - 1) n := by
    unfold middle
    linarith
  rcases h.low with hlow | ⟨-, rfl⟩
  · exact hmiddle.trans hlow
  · exact hmiddle

/-! ## The leading digit -/

/-- The formats in which the search finds the shortest decimals: seventeen digits tell their numbers
apart, and the logarithm is guessed well enough for their magnitudes. -/
structure IsSearchable (f : BinaryFormat) : Prop where
  digits : 2 ^ (f.fractionBits + 1) < 10 ^ 16
  small : f.unitBits ≤ 10000
  large : f.units f.infinityRank ≤ 2 ^ (f.unitBits + 10000)

theorem binary64_isSearchable : binary64.IsSearchable :=
  ⟨by decide, by decide, by decide +kernel⟩

theorem binary32_isSearchable : binary32.IsSearchable :=
  ⟨by decide, by decide, by decide +kernel⟩

theorem units_pos (hn : n ≠ 0) : 0 < f.units n := by
  obtain ⟨m, rfl⟩ := Nat.exists_eq_succ_of_ne_zero hn
  exact Nat.zero_lt_of_lt (f.units_lt_succ m)

/-- The binary logarithm of a magnitude. -/
theorem two_zpow_log2_le (hn : n ≠ 0) :
    (2 : ℚ) ^ ((f.units n).log2 - f.unitBits : Int) ≤ f.magnitude n ∧
      f.magnitude n < 2 ^ ((f.units n).log2 - f.unitBits + 1 : Int) := by
  have hunits := units_pos (f := f) hn
  have hlow : 2 ^ (f.units n).log2 ≤ f.units n := Nat.log2_self_le hunits.ne'
  have hhigh : f.units n < 2 ^ ((f.units n).log2 + 1) := Nat.lt_log2_self
  have hone : (0 : ℚ) < f.unitsPerOne := Nat.cast_pos.mpr f.unitsPerOne_pos
  have hexact : ∀ l : Nat, (2 : ℚ) ^ (l - f.unitBits : Int) = (2 ^ l : Nat) / f.unitsPerOne := by
    intro l
    rw [zpow_sub₀ two_ne_zero, zpow_natCast, zpow_natCast, unitsPerOne]
    push_cast
    rfl
  have hnext : ((f.units n).log2 - f.unitBits + 1 : Int) =
      (((f.units n).log2 + 1 : Nat) : Int) - f.unitBits := by omega
  rw [hnext, hexact, hexact, magnitude]
  exact ⟨div_le_div_of_nonneg_right (Nat.cast_le.mpr hlow) hone.le,
    div_lt_div_of_pos_right (Nat.cast_lt.mpr hhigh) hone⟩

/-- The guess of the decimal logarithm is right after its correction. -/
theorem decimalScale_spec (hf : f.IsSearchable) (hn : n ≠ 0) (hfinite : n < f.infinityRank) :
    (10 : ℚ) ^ (f.decimalScale n - 1) ≤ f.magnitude n ∧
      f.magnitude n < 10 ^ f.decimalScale n := by
  obtain ⟨hlow, hhigh⟩ := two_zpow_log2_le (f := f) hn
  have hlog : (f.units n).log2 < f.unitBits + 10000 := by
    have hlt : f.units n < f.units f.infinityRank :=
      Nat.lt_of_lt_of_le (f.units_lt_succ n) (units_mono hfinite)
    exact (Nat.log2_lt (units_pos hn).ne').mpr (hlt.trans_le hf.large)
  have hsmall := hf.small
  unfold decimalScale
  simp only [compareHalves_units, beq_iff_eq, compare_gt_iff_gt, ScaledDecimal.value, Nat.cast_one,
    one_mul]
  have hmost : ((f.units n).log2 - f.unitBits : Int) < 10000 := by omega
  have hleast : -10000 ≤ ((f.units n).log2 - f.unitBits : Int) := by omega
  generalize ((f.units n).log2 - f.unitBits : Int) = t at hlow hhigh hmost hleast
  have hbelow : (10 : ℚ) ^ (t * 30103 / 100000 - 1) ≤ f.magnitude n :=
    (ten_zpow_le_two_zpow (by omega) (by omega)).trans hlow
  have habove : f.magnitude n < 10 ^ (t * 30103 / 100000 + 2) :=
    hhigh.trans_le (two_zpow_le_ten_zpow (by omega) (by omega))
  split
  · next hfirst => exact ⟨hbelow, hfirst⟩
  · next hfirst =>
    split
    · next hsecond =>
      rw [add_sub_cancel_right]
      exact ⟨not_lt.mp hfirst, hsecond⟩
    · next hsecond =>
      refine ⟨?_, habove⟩
      rw [add_sub_assoc]
      exact not_lt.mp hsecond

/-! ## Decimals on the grid -/

section Grid

variable {e : Int} {d k : Nat}

/-- With a multiple that a rank owns, it owns a neighbour, which is as near. -/
theorem Owns.neighbour (h : f.Owns n (ScaledDecimal.value ⟨d, e⟩)) :
    ∃ c, f.IsNeighbour n e c ∧ f.ownsDecimal n c e = true ∧
      |ScaledDecimal.value ⟨c, e⟩ - f.magnitude n| ≤
        |ScaledDecimal.value ⟨d, e⟩ - f.magnitude n| := by
  have hmono : ∀ {a b : Nat}, a ≤ b → ScaledDecimal.value ⟨a, e⟩ ≤ ScaledDecimal.value ⟨b, e⟩ :=
    fun hab => mul_le_mul_of_nonneg_right (Nat.cast_le.mpr hab) (by positivity)
  have hbetween : ∃ c, f.IsNeighbour n e c ∧ ScaledDecimal.value ⟨c, e⟩ ∈
      Set.uIcc (f.magnitude n) (ScaledDecimal.value ⟨d, e⟩) := by
    rcases Nat.lt_or_ge (f.gridBelow n e) d with hd | hd
    · exact ⟨_, .inr rfl, Set.mem_uIcc_of_le (f.lt_value_gridAbove n e).le (hmono hd)⟩
    · exact ⟨_, .inl rfl, Set.mem_uIcc_of_ge (hmono hd) (f.value_gridBelow_le n e)⟩
  obtain ⟨c, hc, hmem⟩ := hbetween
  exact ⟨c, hc, ownsDecimal_iff.mpr (h.of_mem_uIcc hmem), Set.abs_sub_left_of_mem_uIcc hmem⟩

/-- On a grid with an owned multiple something is found. -/
theorem exists_onGrid? (tie : Tie) (h : f.Owns n (ScaledDecimal.value ⟨d, e⟩)) :
    ∃ r, f.onGrid? tie n e = some r := by
  obtain ⟨c, hc, howns, -⟩ := h.neighbour
  exact Option.ne_none_iff_exists'.mp (onGrid?_ne_none tie hc howns)

/-- Nothing on the grid that the rank owns is nearer than what is found. -/
theorem abs_sub_le_of_onGrid? {tie : Tie} {r : ScaledDecimal} (hr : f.onGrid? tie n e = some r)
    (h : f.Owns n (ScaledDecimal.value ⟨d, e⟩)) :
    |r.value - f.magnitude n| ≤ |ScaledDecimal.value ⟨d, e⟩ - f.magnitude n| := by
  obtain ⟨c, hc, howns, hnear⟩ := h.neighbour
  obtain ⟨-, -, -, -, hbest⟩ := onGrid?_spec hr
  exact (hbest c hc howns).trans hnear

theorem value_pow (k : Nat) (e : Int) : ScaledDecimal.value ⟨10 ^ k, e - k⟩ = 10 ^ e := by
  rw [ScaledDecimal.value, Nat.cast_pow, Nat.cast_ofNat, ← zpow_natCast,
    ← zpow_add₀ (by norm_num), add_sub_cancel]

variable {scale : Int}

/-- What is found `k` places below the leading one has `k` digits, or is a power of ten. -/
theorem digits_le_of_onGrid? {tie : Tie} {r : ScaledDecimal} (hhigh : f.magnitude n < 10 ^ scale)
    (hr : f.onGrid? tie n (scale - k) = some r) : r.digits ≤ 10 ^ k := by
  have hbelow : f.gridBelow n (scale - k) < 10 ^ k := by
    refine Nat.lt_of_not_le fun h => hhigh.not_ge ?_
    rw [← value_pow k scale]
    exact le_gridBelow_iff.mp h
  obtain ⟨d, rfl, rfl | rfl, -⟩ := onGrid?_spec hr
  · exact hbelow.le
  · exact hbelow

/-- A decimal with `k` digits is on the grid `k` places below the leading one, or else it lies below
a power of ten that is on this grid and not above the magnitude. -/
theorem exists_on_grid (hlow : (10 : ℚ) ^ (scale - 1) ≤ f.magnitude n) (hk : k ≠ 0)
    {c : ScaledDecimal} (hc : c.digits < 10 ^ k) :
    ∃ d : Nat, ScaledDecimal.value ⟨d, scale - k⟩ ∈ Set.uIcc (f.magnitude n) c.value := by
  have hten : (1 : ℚ) < 10 := by norm_num
  rcases lt_or_ge c.value (10 ^ (scale - 1)) with hlt | hge
  · obtain ⟨j, rfl⟩ : ∃ j, k = j + 1 := ⟨k - 1, by omega⟩
    have hpow : ScaledDecimal.value ⟨10 ^ j, scale - (j + 1 : Nat)⟩ = 10 ^ (scale - 1) := by
      rw [← value_pow j, sub_sub, Nat.cast_succ, add_comm]
    exact ⟨10 ^ j, Set.mem_uIcc_of_ge (hpow ▸ hlt.le) (hpow ▸ hlow)⟩
  · have hvalue : c.value < 10 ^ (k + c.exponent : Int) := by
      rw [ScaledDecimal.value, zpow_add₀ (by norm_num), zpow_natCast]
      exact mul_lt_mul_of_pos_right (by exact_mod_cast hc) (by positivity)
    have hexponent : scale - 1 < k + c.exponent :=
      (zpow_lt_zpow_iff_right₀ hten).mp (hge.trans_lt hvalue)
    obtain ⟨j, hj⟩ : ∃ j : Nat, c.exponent = j + (scale - k) :=
      ⟨(c.exponent - (scale - k)).toNat, by omega⟩
    have hsame : ScaledDecimal.value ⟨c.digits * 10 ^ j, scale - k⟩ = c.value := by
      rw [ScaledDecimal.value, ScaledDecimal.value, hj, zpow_add₀ (by norm_num), zpow_natCast]
      push_cast
      rw [mul_assoc]
    refine ⟨c.digits * 10 ^ j, ?_⟩
    rw [hsame]
    exact Set.right_mem_uIcc

end Grid

/-! ## Seventeen digits -/

/-- The interval of a rank is half as wide as its neighbours are apart. -/
theorem magnitude_le_width (hn : n ≠ 0) :
    f.magnitude n ≤
      2 ^ (f.fractionBits + 1) * (f.middle n (n + 1) - f.middle (n - 1) n) := by
  have hone : (0 : ℚ) < f.unitsPerOne := Nat.cast_pos.mpr f.unitsPerOne_pos
  have hunits : (f.units n + 2 ^ f.fractionBits * f.units (n - 1) : ℚ) ≤
      2 ^ f.fractionBits * f.units (n + 1) := by
    exact_mod_cast units_le_width (f := f) hn
  have hdiv := div_le_div_of_nonneg_right hunits hone.le
  rw [add_div, mul_div_assoc, mul_div_assoc, ← magnitude, ← magnitude, ← magnitude] at hdiv
  rw [pow_succ, middle, middle]
  linarith

/-- A grid that is finer than the interval of a rank is wide has a decimal in it. -/
theorem exists_owned_of_fine {e : Int} (hf : f.IsSearchable) (hn : n ≠ 0)
    (he : (10 : ℚ) ^ 16 * 10 ^ e ≤ f.magnitude n) :
    ∃ d : Nat, f.Owns n (ScaledDecimal.value ⟨d, e⟩) := by
  have hbelow := f.value_gridBelow_le n e
  have habove := f.lt_value_gridAbove n e
  rcases lt_or_ge (f.middle (n - 1) n) (ScaledDecimal.value ⟨f.gridBelow n e, e⟩) with hin | hout
  · exact ⟨_, .inl hin, .inl (lt_middle_of_le_magnitude hbelow)⟩
  · refine ⟨_, low_of_magnitude_le habove.le, .inl ?_⟩
    have hstep : ScaledDecimal.value ⟨f.gridBelow n e + 1, e⟩ =
        ScaledDecimal.value ⟨f.gridBelow n e, e⟩ + 10 ^ e := by
      rw [ScaledDecimal.value, ScaledDecimal.value, Nat.cast_succ, add_mul, one_mul]
    have hdigits : (2 : ℚ) ^ (f.fractionBits + 1) < 10 ^ 16 := by exact_mod_cast hf.digits
    have hwidth : (10 : ℚ) ^ e < f.middle n (n + 1) - f.middle (n - 1) n := by
      refine lt_of_mul_lt_mul_left ?_ (show (0 : ℚ) ≤ 2 ^ (f.fractionBits + 1) by positivity)
      calc (2 : ℚ) ^ (f.fractionBits + 1) * 10 ^ e < 10 ^ 16 * 10 ^ e :=
            mul_lt_mul_of_pos_right hdigits (by positivity)
        _ ≤ f.magnitude n := he
        _ ≤ _ := magnitude_le_width hn
    linarith

theorem exists_seventeen {scale : Int} (hf : f.IsSearchable) (hn : n ≠ 0)
    (hlow : (10 : ℚ) ^ (scale - 1) ≤ f.magnitude n) :
    ∃ d : Nat, f.Owns n (ScaledDecimal.value ⟨d, scale - (17 : Nat)⟩) := by
  refine exists_owned_of_fine hf hn (le_of_eq_of_le ?_ hlow)
  rw [← zpow_natCast, ← zpow_add₀ (by norm_num)]
  congr 1
  omega

/-! ## The search finds the shortest -/

/-- A search through the first naturals ends where something is found, or before. -/
theorem findSome?_range {α : Type} (look : Nat → Option α) {bound last : Nat} {found : α}
    (hlast : last < bound) (hfound : look last = some found) :
    ∃ i r, i ≤ last ∧ look i = some r ∧ (List.range bound).findSome? look = some r := by
  cases hsearch : (List.range bound).findSome? look with
  | none =>
    have hnone := List.findSome?_eq_none_iff.mp hsearch last (List.mem_range.mpr hlast)
    cases hfound.symm.trans hnone
  | some r =>
    obtain ⟨before, i, behind, hsplit, hi, hbefore⟩ := List.findSome?_eq_some_iff.mp hsearch
    refine ⟨i, r, ?_, hi, rfl⟩
    have hsorted := List.pairwise_lt_range (n := bound)
    have hmem := List.mem_range.mpr hlast
    rw [hsplit] at hsorted hmem
    have hbehind := (List.pairwise_cons.mp (List.pairwise_append.mp hsorted).2.1).1
    rcases List.mem_append.mp hmem with hmem | hmem
    · cases hfound.symm.trans (hbefore last hmem)
    · rcases List.mem_cons.mp hmem with rfl | hmem
      · exact Nat.le_refl _
      · exact (hbehind last hmem).le

/-- The search ends at the first grid with a decimal that the rank owns, or before. -/
theorem shortest_of_owns (tie : Tie) {d k : Nat} (hk : k ≠ 0) (hmost : k ≤ 17)
    (h : f.Owns n (ScaledDecimal.value ⟨d, f.decimalScale n - k⟩)) :
    ∃ j r, j ≠ 0 ∧ j ≤ k ∧ f.onGrid? tie n (f.decimalScale n - j) = some r ∧
      f.shortest tie n = r.stripZeros := by
  obtain ⟨last, rfl⟩ : ∃ last, k = last + 1 := ⟨k - 1, by omega⟩
  have hplace : ∀ i : Nat, f.decimalScale n - (i + 1 : Nat) = f.decimalScale n - 1 - i := by
    intro i
    omega
  rw [hplace] at h
  obtain ⟨found, hfound⟩ := exists_onGrid? tie h
  obtain ⟨i, r, hi, hr, hsearch⟩ :=
    findSome?_range (fun i : Nat => f.onGrid? tie n (f.decimalScale n - 1 - i))
      (show last < 17 by omega) hfound
  refine ⟨i + 1, r, Nat.succ_ne_zero i, Nat.succ_le_succ hi, hplace i ▸ hr, ?_⟩
  unfold shortest
  simp only [hsearch, Option.getD_some]

/-- An owned decimal on a grid bounds the digits of what is found. -/
theorem digits_shortest_lt (tie : Tie) (hhigh : f.magnitude n < 10 ^ f.decimalScale n) {d k : Nat}
    (hk : k ≠ 0) (hmost : k ≤ 17)
    (h : f.Owns n (ScaledDecimal.value ⟨d, f.decimalScale n - k⟩)) :
    (f.shortest tie n).digits < 10 ^ k := by
  obtain ⟨j, r, hj, hjk, hr, hshortest⟩ := shortest_of_owns tie hk hmost h
  rw [hshortest]
  exact (ScaledDecimal.digits_stripZeros_lt hj (digits_le_of_onGrid? hhigh hr)).trans_le
    (Nat.pow_le_pow_right (by decide) hjk)

/-- The shortest decimal of a rank: it is rounded to the rank, no other one that is has fewer
digits, and no other one with as few digits is nearer to the magnitude. -/
structure IsShortest (f : BinaryFormat) (n : Nat) (d : ScaledDecimal) : Prop where
  nearest : f.IsNearest d.value n
  fewest : ∀ c : ScaledDecimal, f.IsNearest c.value n →
    ∀ k, c.digits < 10 ^ k → d.digits < 10 ^ k
  closest : ∀ c : ScaledDecimal, f.IsNearest c.value n →
    (∀ k, d.digits < 10 ^ k → c.digits < 10 ^ k) →
      |d.value - f.magnitude n| ≤ |c.value - f.magnitude n|

theorem isShortest_zero (f : BinaryFormat) : f.IsShortest 0 ⟨0, 0⟩ := by
  have hvalue : ScaledDecimal.value ⟨0, 0⟩ = f.magnitude 0 := by
    rw [f.magnitude_zero, ScaledDecimal.value_zero]
  refine ⟨hvalue ▸ (f.owns_magnitude 0).isNearest, fun _ _ k _ => Nat.pow_pos (by decide), ?_⟩
  intro c _ _
  rw [hvalue, sub_self, abs_zero]
  exact abs_nonneg _

/-- **The search finds the shortest decimal.** The decimals that it may miss on the grids are no
shorter and no nearer than one that is on them, and on the seventeenth grid there is one. -/
theorem isShortest_shortest (hf : f.IsSearchable) (tie : Tie) (hn : n ≠ 0)
    (hfinite : n < f.infinityRank) : f.IsShortest n (f.shortest tie n) := by
  obtain ⟨hlow, hhigh⟩ := decimalScale_spec hf hn hfinite
  obtain ⟨d, hd⟩ := exists_seventeen hf hn hlow
  refine ⟨(f.owns_shortest tie n).isNearest, ?_, ?_⟩
  · intro c hc k hck
    have hcowns := hc.owns c.value_nonneg
    have hk : k ≠ 0 := by
      rintro rfl
      obtain ⟨digits, e⟩ := c
      obtain rfl : digits = 0 := Nat.lt_one_iff.mp hck
      exact (hcowns.pos hn).ne' (ScaledDecimal.value_zero e)
    rcases Nat.lt_or_ge 17 k with hlt | hle
    · exact (digits_shortest_lt tie hhigh (by decide) (le_refl 17) hd).trans
        (Nat.pow_lt_pow_right (by decide) hlt)
    · obtain ⟨b, hb⟩ := exists_on_grid hlow hk hck
      exact digits_shortest_lt tie hhigh hk hle (hcowns.of_mem_uIcc hb)
  · intro c hc hdigits
    obtain ⟨j, r, hj, -, hr, hshortest⟩ :=
      shortest_of_owns tie (show 17 ≠ 0 by decide) (le_refl 17) hd
    have hcowns := hc.owns c.value_nonneg
    have hcdigits : c.digits < 10 ^ j := by
      refine hdigits j ?_
      rw [hshortest]
      exact ScaledDecimal.digits_stripZeros_lt hj (digits_le_of_onGrid? hhigh hr)
    obtain ⟨b, hb⟩ := exists_on_grid hlow hj hcdigits
    rw [hshortest, ScaledDecimal.value_stripZeros]
    exact (abs_sub_le_of_onGrid? hr (hcowns.of_mem_uIcc hb)).trans
      (Set.abs_sub_left_of_mem_uIcc hb)

end BinaryFormat

/-- The decimal of a finite number is the shortest one. -/
theorem Floating.isShortest_decimal {f : BinaryFormat} (hf : f.IsSearchable) {x : Floating f}
    (hx : x.isFinite = true) (tie : Tie) : f.IsShortest x.rank (x.decimal tie) := by
  unfold Floating.decimal
  split
  · next hzero =>
    rw [beq_iff_eq.mp hzero]
    exact f.isShortest_zero
  · next hzero =>
    exact BinaryFormat.isShortest_shortest hf tie (fun h => hzero (beq_iff_eq.mpr h))
      (of_decide_eq_true hx)

theorem Double.isShortest_decimal {x : Double} (hx : x.isFinite = true) (tie : Tie) :
    BinaryFormat.binary64.IsShortest x.rank (x.decimal tie) :=
  Floating.isShortest_decimal BinaryFormat.binary64_isSearchable hx tie

theorem Single.isShortest_decimal {x : Single} (hx : x.isFinite = true) (tie : Tie) :
    BinaryFormat.binary32.IsShortest x.rank (x.decimal tie) :=
  Floating.isShortest_decimal BinaryFormat.binary32_isSearchable hx tie

end SolrRequest.Number

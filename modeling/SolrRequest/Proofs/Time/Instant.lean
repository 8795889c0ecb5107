import SolrRequest.Proofs.Number.Digits
import SolrRequest.Time.Instant

/-!
# Reading instants back

The text of an instant is read as the same instant with the fraction of its second cut to the digits
that are written (`Instant.ofText?_text`), leap seconds and years of any sign included; the exact
text loses nothing (`Instant.ofText?_exactText`). Each part is read up to the character behind it,
which is never one that the part could go on with.
-/

namespace SolrRequest.Time

open Number Text

-- Powers are those of the core library, whatever else is imported.
attribute [local instance (1100)] instPowNat

/-! ## Numbers of a fixed width -/

theorem isSpace_of_isDigit {c : Char} (h : c.isDigit = true) : isSpace c = false := by
  have hc := toNat_of_isDigit h
  simp only [isSpace, whiteSpaceRanges, List.any_cons, List.any_nil, Bool.or_false,
    Bool.or_eq_false_iff, Bool.and_eq_false_iff, decide_eq_false_iff_not]
  omega

theorem trimStart_cons {c : Char} (h : isSpace c = false) (r : List Char) :
    trimStart (c :: r) = c :: r := by
  rw [trimStart, List.dropWhile_cons, h]
  rfl

theorem padded_head (width n : Nat) : ∃ c r, padded width n = c :: r ∧ c.isDigit = true := by
  cases h : padded width n with
  | nil => exact absurd (List.append_eq_nil_iff.mp h).2 (natText_ne_nil n)
  | cons c r =>
    have hmem : c ∈ padded width n := h ▸ List.mem_cons_self
    exact ⟨c, r, rfl, isDigit_of_mem_padded hmem⟩

theorem trimStart_padded (width n : Nat) (x : List Char) :
    trimStart (padded width n ++ x) = padded width n ++ x := by
  obtain ⟨c, r, hhead, hc⟩ := padded_head width n
  rw [hhead, List.cons_append, trimStart_cons (isSpace_of_isDigit hc)]

namespace Instant

/-- A run of digits is read whole when it fills the width, or when no digit follows it. -/
theorem readDigits_run {width : Nat} {s x : List Char} (hs : ∀ c ∈ s, c.isDigit = true)
    (hne : s ≠ []) (hwidth : s.length ≤ width)
    (hx : s.length = width ∨ StartsOutside Char.isDigit x) :
    readDigits width (s ++ x) = some (digitsValue s, x) := by
  have htake : (s ++ x).take width = s ++ x.take (width - s.length) := by
    rw [List.take_append, List.take_of_length_le hwidth]
  have houtside : StartsOutside Char.isDigit (x.take (width - s.length)) := by
    rcases hx with hfull | hx
    · rw [hfull, Nat.sub_self, List.take_zero]
      exact startsOutside_nil
    · intro c hc
      cases hk : width - s.length with
      | zero =>
        rw [hk, List.take_zero] at hc
        cases hc
      | succ k =>
        cases x with
        | nil =>
          rw [List.take_nil] at hc
          cases hc
        | cons d r =>
          rw [hk, List.take_succ_cons] at hc
          exact hx c hc
  rw [readDigits, htake, takeWhile_run hs houtside, if_neg hne, List.drop_left]

theorem readNumber_padded {n : Nat} (hn : n < 100) (x : List Char) :
    readNumber 2 (padded 2 n ++ x) = some (n, x) := by
  have hlength : (padded 2 n).length = 2 := length_padded (by simpa using hn) (by decide)
  have hne : padded 2 n ≠ [] := List.ne_nil_of_length_eq_add_one hlength
  rw [readNumber, trimStart_padded,
    readDigits_run (fun c hc => isDigit_of_mem_padded hc) hne (Nat.le_of_eq hlength)
      (.inl hlength), digitsValue_padded]

/-! ## Dates -/

theorem readYear_yearText (year : Int) {x : List Char} (hx : StartsOutside Char.isDigit x) :
    readYear (yearText year ++ x) = some (year, x) := by
  have hdigits : ∀ c ∈ padded 4 year.natAbs, c.isDigit = true :=
    fun c hc => isDigit_of_mem_padded hc
  obtain ⟨c, r, hhead, hc⟩ := padded_head 4 year.natAbs
  have hne : padded 4 year.natAbs ≠ [] := by
    rw [hhead]
    exact List.cons_ne_nil c r
  have hsigned : readDigits (padded 4 year.natAbs ++ x).length (padded 4 year.natAbs ++ x) =
      some (year.natAbs, x) := by
    rw [readDigits_run hdigits hne (by simp) (.inr hx), digitsValue_padded]
  by_cases hplain : 0 ≤ year ∧ year ≤ 9999
  · have hlength : (padded 4 year.natAbs).length = 4 := length_padded (by omega) (by decide)
    have hread : readDigits 4 (padded 4 year.natAbs ++ x) = some (year.natAbs, x) := by
      rw [readDigits_run hdigits hne (Nat.le_of_eq hlength) (.inl hlength), digitsValue_padded]
    have hminus : c ≠ '-' := by
      rintro rfl
      exact absurd hc (by decide)
    have hplus : c ≠ '+' := by
      rintro rfl
      exact absurd hc (by decide)
    rw [yearText, if_pos hplain, readYear, trimStart_padded]
    split
    · next heq =>
      rw [hhead] at heq
      exact absurd (List.cons.inj heq).1 hminus
    · next heq =>
      rw [hhead] at heq
      exact absurd (List.cons.inj heq).1 hplus
    · have habs : (year.natAbs : Int) = year := by omega
      rw [hread]
      exact congrArg (fun y => some (y, x)) habs
  · rw [yearText, if_neg hplain, List.cons_append]
    by_cases hneg : year < 0
    · have habs : -(year.natAbs : Int) = year := by omega
      rw [if_pos hneg, readYear, trimStart_cons (by decide)]
      show (readDigits _ _).map _ = _
      rw [hsigned]
      exact congrArg (fun y => some (y, x)) habs
    · have habs : (year.natAbs : Int) = year := by omega
      rw [if_neg hneg, readYear, trimStart_cons (by decide)]
      show (readDigits _ _).map _ = _
      rw [hsigned]
      exact congrArg (fun y => some (y, x)) habs

theorem daysInMonth_le (year : Int) (month : Nat) : daysInMonth year month ≤ 31 := by
  unfold daysInMonth
  repeat' split
  all_goals omega

theorem readDate_dateText (d : Date) (x : List Char) :
    readDate (dateText d ++ x) = some (d, x) := by
  obtain ⟨_, _, _, hmonth, _, hday⟩ := d.isDate
  have hdays := daysInMonth_le d.year d.month
  have hyear := readYear_yearText d.year
    (x := '-' :: (padded 2 d.month ++ '-' :: (padded 2 d.day ++ x)))
    (startsOutside_cons (by decide) _)
  have hhyphen : ∀ r, readChar '-' (trimStart ('-' :: r)) = some r := by
    intro r
    rw [trimStart_cons (by decide)]
    rfl
  simp only [dateText, List.append_assoc, List.cons_append] at hyear ⊢
  simp only [readDate, hyear, hhyphen, readNumber_padded (n := d.month) (by omega),
    readNumber_padded (n := d.day) (by omega), Option.bind_eq_bind, Option.bind_some,
    Date.ofParts?_self]
  rfl

/-! ## Fractions of a second -/

@[ext]
theorem ext {s t : Instant} (hdate : s.date = t.date) (hsecond : s.second = t.second)
    (hnanosecond : s.nanosecond = t.nanosecond) : s = t := by
  cases s
  cases t
  cases hdate
  cases hsecond
  cases hnanosecond
  rfl

/-- The instant with so many digits of the fraction of its second; what is finer is cut off. -/
def cut (digits : Nat) (t : Instant) : Instant where
  date := t.date
  second := t.second
  nanosecond := t.nanosecond / 10 ^ (9 - digits) * 10 ^ (9 - digits)
  second_lt := t.second_lt
  nanosecond_lt := Nat.lt_of_le_of_lt (Nat.div_mul_le_self _ _) t.nanosecond_lt
  leap h := t.leap (Nat.le_trans h (Nat.div_mul_le_self _ _))

theorem fraction_lt (t : Instant) : t.fraction < nanosPerSecond :=
  Nat.mod_lt _ (by decide)

theorem nanosecond_eq (t : Instant) :
    t.nanosecond = t.fraction + if t.isLeap then nanosPerSecond else 0 := by
  have hlt := t.nanosecond_lt
  by_cases hleap : t.isLeap = true
  · have hge : nanosPerSecond ≤ t.nanosecond := of_decide_eq_true hleap
    rw [if_pos hleap, fraction]
    unfold nanosPerSecond at hge ⊢
    omega
  · have hsmall : t.nanosecond < nanosPerSecond :=
      Nat.lt_of_not_le (of_decide_eq_false (Bool.eq_false_iff.mpr hleap))
    rw [if_neg hleap, fraction, Nat.mod_eq_of_lt hsmall, Nat.add_zero]

/-- Only the fraction is cut: a whole second is a multiple of every unit. -/
theorem nanosecond_cut (p : Precision) (t : Instant) :
    (t.cut p.digits).nanosecond = t.fraction / 10 ^ (9 - p.digits) * 10 ^ (9 - p.digits) +
      if t.isLeap then nanosPerSecond else 0 := by
  have hwhole : ∀ n, (n + nanosPerSecond) / 10 ^ (9 - p.digits) * 10 ^ (9 - p.digits) =
      n / 10 ^ (9 - p.digits) * 10 ^ (9 - p.digits) + nanosPerSecond := by
    intro n
    cases p <;> simp only [Precision.digits, nanosPerSecond] <;> omega
  show t.nanosecond / 10 ^ (9 - p.digits) * 10 ^ (9 - p.digits) = _
  rw [nanosecond_eq t]
  split
  · exact hwhole _
  · rfl

theorem isLeap_cut (p : Precision) (t : Instant) : (t.cut p.digits).isLeap = t.isLeap := by
  have hcut := nanosecond_cut p t
  have hlt := t.fraction_lt
  have hle := Nat.div_mul_le_self t.fraction (10 ^ (9 - p.digits))
  rw [isLeap, hcut]
  cases t.isLeap with
  | true => exact decide_eq_true (Nat.le_add_left _ _)
  | false => exact decide_eq_false (Nat.not_le_of_lt (Nat.lt_of_le_of_lt hle hlt))

theorem fraction_cut (p : Precision) (t : Instant) :
    (t.cut p.digits).fraction = t.fraction / 10 ^ (9 - p.digits) * 10 ^ (9 - p.digits) := by
  have hcut := nanosecond_eq (t.cut p.digits)
  rw [isLeap_cut, nanosecond_cut] at hcut
  exact (Nat.add_right_cancel hcut).symm

/-- The exact precision loses nothing. -/
theorem cut_exactPrecision (t : Instant) : t.cut t.exactPrecision.digits = t := by
  have hexact : t.fraction / 10 ^ (9 - t.exactPrecision.digits) *
      10 ^ (9 - t.exactPrecision.digits) = t.fraction := by
    apply Nat.div_mul_cancel (Nat.dvd_of_mod_eq_zero _)
    unfold exactPrecision
    split
    · next h => rw [h, Nat.zero_mod]
    · split
      · next h => exact h
      · split
        · next h => exact h
        · exact Nat.mod_one _
  have hnano : (t.cut t.exactPrecision.digits).nanosecond = t.nanosecond := by
    rw [nanosecond_cut, hexact, ← nanosecond_eq]
  exact Instant.ext rfl rfl hnano

theorem readFraction_fractionText (p : Precision) {nanosecond : Nat}
    (hlt : nanosecond < nanosPerSecond) {x : List Char}
    (hx : StartsOutside (fun c => c.isDigit || c == '.') x) :
    readFraction (fractionText p nanosecond ++ x) =
      some (nanosecond / 10 ^ (9 - p.digits) * 10 ^ (9 - p.digits), x) := by
  have hxDigit : StartsOutside Char.isDigit x := fun c hc => (Bool.or_eq_false_iff.mp (hx c hc)).1
  have hsome : ∀ n : Nat, 0 < n → n ≤ 9 →
      readFraction ('.' :: padded n (nanosecond / 10 ^ (9 - n)) ++ x) =
        some (nanosecond / 10 ^ (9 - n) * 10 ^ (9 - n), x) := by
    intro n hpos hle
    have hpow : 10 ^ n * 10 ^ (9 - n) = 10 ^ 9 := by rw [← Nat.pow_add, Nat.add_sub_cancel' hle]
    have hquotient : nanosecond / 10 ^ (9 - n) < 10 ^ n :=
      Nat.div_lt_of_lt_mul (by rw [Nat.mul_comm, hpow]; exact hlt)
    have hlength := length_padded hquotient hpos
    have hne : padded n (nanosecond / 10 ^ (9 - n)) ≠ [] := by
      obtain ⟨c, r, hhead, _⟩ := padded_head n (nanosecond / 10 ^ (9 - n))
      rw [hhead]
      exact List.cons_ne_nil c r
    have htake : (padded n (nanosecond / 10 ^ (9 - n))).take 9 =
        padded n (nanosecond / 10 ^ (9 - n)) := List.take_of_length_le (by omega)
    rw [List.cons_append, readFraction,
      takeDigits_run (fun c hc => isDigit_of_mem_padded hc) hxDigit]
    simp only [hne, if_false, htake, digitsValue_padded, hlength]
  cases p with
  | seconds =>
    have hzero : nanosecond / 10 ^ (9 - Precision.seconds.digits) = 0 := Nat.div_eq_of_lt hlt
    rw [hzero, Nat.zero_mul]
    cases x with
    | nil => rfl
    | cons c r =>
      have hc : c ≠ '.' := by
        rintro rfl
        exact absurd (hx '.' rfl) (by decide)
      exact readFraction.eq_2 _ fun _ e => hc (List.cons.inj e).1
  | millis => exact hsome 3 (by decide) (by decide)
  | micros => exact hsome 6 (by decide) (by decide)
  | nanos => exact hsome 9 (by decide) (by decide)

/-! ## Times -/

theorem readTime_text (p : Precision) (t : Instant) {x : List Char}
    (hx : StartsOutside (fun c => c.isDigit || c == '.') x) :
    readTime (t.timeText ++ (fractionText p t.fraction ++ x)) =
      some (t.second, (t.cut p.digits).nanosecond, x) := by
  have hsecond := t.second_lt
  have hcolon : ∀ r, readChar ':' (trimStart (':' :: r)) = some r := by
    intro r
    rw [trimStart_cons (by decide)]
    rfl
  have hpieces : readTime (t.timeText ++ (fractionText p t.fraction ++ x)) =
      if t.second / 3600 < 24 ∧ t.second / 60 % 60 < 60 ∧
          t.second % 60 + (if t.isLeap then 1 else 0) ≤ 60 then
        if t.second % 60 + (if t.isLeap then 1 else 0) = 60 then
          some (t.second / 3600 * 3600 + t.second / 60 % 60 * 60 + 59,
            t.fraction / 10 ^ (9 - p.digits) * 10 ^ (9 - p.digits) + nanosPerSecond, x)
        else
          some (t.second / 3600 * 3600 + t.second / 60 % 60 * 60 +
            (t.second % 60 + if t.isLeap then 1 else 0),
            t.fraction / 10 ^ (9 - p.digits) * 10 ^ (9 - p.digits), x)
      else none := by
    have hlast : t.second % 60 + (if t.isLeap then 1 else 0) < 100 := by
      split <;> omega
    simp only [timeText, List.append_assoc, List.cons_append]
    simp only [readTime, hcolon, readNumber_padded (n := t.second / 3600) (by omega),
      readNumber_padded (n := t.second / 60 % 60) (by omega), readNumber_padded hlast,
      readFraction_fractionText p t.fraction_lt hx, Option.bind_eq_bind, Option.bind_some]
    rfl
  rw [hpieces, nanosecond_cut]
  by_cases hleap : t.isLeap = true
  · have hlast : t.second % 60 = 59 := t.leap (of_decide_eq_true hleap)
    have hhour : t.second / 3600 * 3600 + t.second / 60 % 60 * 60 + 59 = t.second := by omega
    simp only [if_pos hleap, hlast, hhour]
    rw [if_pos ⟨by omega, by omega, by omega⟩, if_pos trivial]
  · have hhour : t.second / 3600 * 3600 + t.second / 60 % 60 * 60 + t.second % 60 = t.second := by
      omega
    simp only [if_neg hleap, Nat.add_zero, hhour]
    rw [if_pos ⟨by omega, by omega, by omega⟩, if_neg (by omega)]

/-- **Instants read back.** The text of an instant is read as that instant, the fraction of its
second cut to the digits that are written. -/
theorem ofText?_text (p : Precision) (t : Instant) :
    ofText? (t.text p) = some (t.cut p.digits) := by
  have htext : (t.text p).toList =
      dateText t.date ++ ('T' :: (t.timeText ++ (fractionText p t.fraction ++ ['Z']))) := by
    simp only [text, String.toList_ofList, List.append_assoc, List.cons_append]
  have htime := t.readTime_text p (x := ['Z']) (startsOutside_cons (by decide) [])
  have hparts : ofParts? t.date t.second (t.cut p.digits).nanosecond = some (t.cut p.digits) :=
    dif_pos ⟨t.second_lt, (t.cut p.digits).nanosecond_lt, (t.cut p.digits).leap⟩
  have hlocal : ofLocal? t.date t.second (t.cut p.digits).nanosecond 0 =
      some (t.cut p.digits) := by
    have hsecond := t.second_lt
    unfold ofLocal?
    simp only [Int.sub_zero, Int.natAbs_zero]
    rw [if_pos (by decide), if_neg (by omega), if_neg (by unfold secondsPerDay; omega)]
    exact hparts
  simp only [ofText?, htext, readDate_dateText, Option.bind_eq_bind, Option.bind_some, readMark,
    true_or, if_true, htime]
  exact hlocal

/-- The exact text of an instant is read as that instant. -/
theorem ofText?_exactText (t : Instant) : ofText? t.exactText = some t := by
  rw [exactText, ofText?_text, cut_exactPrecision]

end Instant

end SolrRequest.Time

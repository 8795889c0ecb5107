import SolrRequest.Number.Decimal
import SolrRequest.Proofs.Number.Digits

/-!
# Reading decimals back

The text of a decimal reads as the same decimal, digit for digit and place for place, but a zero
loses its sign (`Decimal.ofText?_text`). The comparison of decimals does not see the difference
(`Decimal.unsigned_beq`). Only a text with a negative exponent is read as a zero with a sign, when
all digits of a negative number are rounded off
(`Decimal.hasNegativeExponent_of_isSignedZero`).
-/

namespace SolrRequest.Number.Decimal

open Text

-- Powers are those of the core library, whatever else is imported.
attribute [local instance (1100)] instPowNat

/-- The decimal with no sign on a zero. -/
def unsigned (d : Decimal) : Decimal :=
  { d with negative := d.negative && d.mantissa != 0 }

theorem unsigned_beq (d : Decimal) : (d.unsigned == d) = true := by
  have hsigned : d.unsigned.signed = d.signed := by
    unfold unsigned signed
    by_cases hm : d.mantissa = 0
    · simp [hm]
    · simp [hm]
  show (d.unsigned.signed * _ == d.signed * _) = true
  rw [hsigned]
  exact beq_iff_eq.mpr rfl

theorem unsigned_unsigned (d : Decimal) : d.unsigned.unsigned = d.unsigned := by
  unfold unsigned
  simp

/-- A run of digits is read into the mantissa as long as it fits. The induction is on the run; the
mantissa that is reached bounds the one at each digit. -/
theorem readDigits_run (pointed : Bool) {s : List Char} (hs : ∀ c ∈ s, c.isDigit = true)
    (rest : List Char) : ∀ (mantissa scale : Nat) (started : Bool),
      10 ^ s.length * mantissa + digitsValue s < capacity →
      scale + (if pointed then s.length else 1) ≤ maxScale →
      readDigits mantissa scale pointed started (s ++ rest) =
        readDigits (10 ^ s.length * mantissa + digitsValue s)
          (if pointed then scale + s.length else scale) pointed (started || !s.isEmpty) rest := by
  induction s with
  | nil =>
    intro mantissa scale started _ _
    simp [digitsValue]
  | cons c r ih =>
    intro mantissa scale started hfits hscale
    have hc := hs c List.mem_cons_self
    have hpos : 0 < 10 ^ r.length := Nat.pow_pos (by decide)
    have hvalue : 10 ^ (c :: r).length * mantissa + digitsValue (c :: r) =
        10 ^ r.length * (mantissa * 10 + digitValue c) + digitsValue r := by
      rw [digitsValue_cons, List.length_cons, Nat.pow_succ, Nat.mul_add, ← Nat.add_assoc,
        Nat.mul_assoc, Nat.mul_comm 10 mantissa]
    rw [hvalue] at hfits ⊢
    have hnext : mantissa * 10 + digitValue c < capacity := by
      have hle := Nat.le_mul_of_pos_left (mantissa * 10 + digitValue c) hpos
      omega
    have hround : isRounded mantissa scale c = false := by
      have hlt : ¬ maxScale ≤ scale := by
        cases pointed <;> simp at hscale <;> omega
      simp [isRounded, hlt]
    have hrest : (if pointed then scale + 1 else scale) + (if pointed then r.length else 1) ≤
        maxScale := by
      cases pointed <;> simp at hscale ⊢ <;> omega
    have hstep := ih (fun d hd => hs d (List.mem_cons_of_mem _ hd)) (mantissa * 10 + digitValue c)
      (if pointed then scale + 1 else scale) true hfits hrest
    rw [List.cons_append, readDigits, hround, if_neg (by decide), if_pos hc]
    simp only [hnext, if_true]
    rw [hstep]
    cases pointed with
    | false => simp
    | true => simp [Nat.add_comm, Nat.add_left_comm]

/-- The digits of a decimal are read back, with or without a point. -/
theorem readDigits_text {x : Numeral} (hdigits : x.digits < capacity)
    (hplaces : x.places ≤ maxScale) :
    readDigits 0 0 false false (x.wholeText ++ x.fractionText) = some (x.digits, x.places) := by
  have hwhole : ∀ c ∈ x.wholeText, c.isDigit = true := fun c hc => isDigit_of_mem_natText hc
  have hfraction : ∀ c ∈ x.fractionDigits, c.isDigit = true :=
    fun c hc => Numeral.isDigit_of_mem_fractionDigits hc
  have hstarted : x.wholeText.isEmpty = false :=
    List.isEmpty_eq_false_iff.mpr (natText_ne_nil _)
  have hvalue := x.digitsValue_text
  rw [digitsValue_append] at hvalue
  have hpos : 0 < 10 ^ x.fractionDigits.length := Nat.pow_pos (by decide)
  have hle := Nat.le_mul_of_pos_left (digitsValue x.wholeText) hpos
  have hrun := readDigits_run false hwhole x.fractionText 0 0 false (by omega) (by simp [maxScale])
  simp only [Nat.mul_zero, Nat.zero_add, hstarted, Bool.false_or, Bool.not_false,
    Bool.false_eq_true, if_false] at hrun
  rw [hrun]
  by_cases hzero : x.places = 0
  · have hnone : x.fractionText = [] := if_pos hzero
    have hdigitsNone : x.fractionDigits = [] := if_pos hzero
    rw [hdigitsNone, List.length_nil, Nat.pow_zero, Nat.one_mul] at hvalue
    rw [hnone, hzero, ← hvalue]
    rfl
  · have hsome : x.fractionText = '.' :: x.fractionDigits := by
      rw [Numeral.fractionText, Numeral.fractionDigits, if_neg hzero, if_neg hzero]
    have hpoint : isRounded (digitsValue x.wholeText) 0 '.' = false := by
      simp [isRounded, maxScale]
    have hlength := x.length_fractionDigits
    have hrunFraction := readDigits_run true hfraction [] (digitsValue x.wholeText) 0 true
      (by omega) (by simp; omega)
    rw [List.append_nil, hvalue, hlength] at hrunFraction
    rw [hsome, readDigits, hpoint, if_neg (by decide), if_neg (by decide), if_pos rfl,
      if_neg (by decide), hrunFraction]
    simp [readDigits]

/-- **Decimals read back.** The text of a decimal is read as the decimal, with no sign on a
zero. -/
theorem ofText?_text (d : Decimal) : ofText? d.text = some d.unsigned := by
  let x : Numeral :=
    { negative := d.negative, digits := d.mantissa, places := d.scale, exponent := none }
  have hsign : takeSign d.text.toList = (d.negative, x.wholeText ++ x.fractionText) := by
    obtain ⟨c, r, hhead, hc⟩ := natText_head (n := x.digits / 10 ^ x.places)
    have hminus : c ≠ '-' := by
      rintro rfl
      exact absurd hc (by decide)
    have hplus : c ≠ '+' := by
      rintro rfl
      exact absurd hc (by decide)
    rw [text, String.toList_ofList, Numeral.text, Numeral.exponentText, List.append_nil]
    cases hn : d.negative with
    | true => rfl
    | false =>
      have hwhole : x.wholeText = c :: r := hhead
      show takeSign (x.wholeText ++ x.fractionText) = (false, x.wholeText ++ x.fractionText)
      rw [hwhole, List.cons_append, takeSign.eq_3 _ (fun _ e => hminus (List.cons.inj e).1)
        (fun _ e => hplus (List.cons.inj e).1)]
  have hparts : ofParts? (d.negative && d.mantissa != 0) d.mantissa d.scale = some d.unsigned :=
    dif_pos ⟨d.mantissa_lt, d.scale_le⟩
  have hplain : ofPlain? d.text.toList = some d.unsigned := by
    simp only [ofPlain?, hsign, readDigits_text (x := x) d.mantissa_lt d.scale_le]
    exact hparts
  rw [ofText?, hplain]
  rfl

/-! ## Zeros with a sign -/

/-- A zero with a minus sign. -/
def IsSignedZero (d : Decimal) : Prop :=
  d.negative = true ∧ d.mantissa = 0

theorem unsigned_eq_self {d : Decimal} (h : ¬d.IsSignedZero) : d.unsigned = d := by
  obtain ⟨negative, mantissa, scale, _, _⟩ := d
  have hsign : (negative && mantissa != 0) = negative := by
    cases negative with
    | false => rfl
    | true => exact bne_iff_ne.mpr fun hzero => h ⟨rfl, hzero⟩
  simp only [unsigned, hsign]

theorem ofParts?_eq_some {negative : Bool} {mantissa scale : Nat} {d : Decimal}
    (h : ofParts? negative mantissa scale = some d) :
    d.negative = negative ∧ d.mantissa = mantissa ∧ d.scale = scale := by
  unfold ofParts? at h
  split at h
  · cases h
    exact ⟨rfl, rfl, rfl⟩
  · cases h

theorem not_isSignedZero_of_ofInt? {i : Int} {d : Decimal} (h : ofInt? i = some d) :
    ¬d.IsSignedZero := by
  obtain ⟨hnegative, hmantissa, -⟩ := ofParts?_eq_some h
  rintro ⟨hsign, hzero⟩
  rw [hnegative, decide_eq_true_eq] at hsign
  omega

theorem not_isSignedZero_of_ofPlain? {s : List Char} {d : Decimal} (h : ofPlain? s = some d) :
    ¬d.IsSignedZero := by
  obtain ⟨⟨mantissa, scale⟩, -, hparts⟩ := Option.bind_eq_some_iff.mp h
  obtain ⟨hnegative, hmantissa, -⟩ := ofParts?_eq_some hparts
  rintro ⟨hsign, hzero⟩
  rw [hnegative, ← hmantissa, hzero] at hsign
  simp at hsign

/-- Moving the point to the right rounds nothing off. -/
theorem not_isSignedZero_of_shiftRight? {base d : Decimal} {places : Nat}
    (hbase : ¬base.IsSignedZero) (h : base.shiftRight? places = some d) : ¬d.IsSignedZero := by
  rintro ⟨hsign, hzero⟩
  unfold shiftRight? at h
  split at h
  · obtain ⟨hnegative, hmantissa, -⟩ := ofParts?_eq_some h
    exact hbase ⟨hnegative ▸ hsign, hmantissa ▸ hzero⟩
  · split at h
    · obtain ⟨hnegative, hmantissa, -⟩ := ofParts?_eq_some h
      have hpow : 10 ^ (places - base.scale) ≠ 0 := Nat.pos_iff_ne_zero.mp (Nat.pow_pos (by decide))
      rw [hmantissa] at hzero
      exact hbase ⟨hnegative ▸ hsign, (Nat.mul_eq_zero.mp hzero).resolve_right hpow⟩
    · cases h

/-- Scientific notation with an exponent that is negative. -/
def HasNegativeExponent (s : List Char) : Prop :=
  ∃ base mark exponent, s = base ++ mark :: '-' :: exponent ∧ (mark = 'e' ∨ mark = 'E')

theorem hasNegativeExponent_of_isSignedZero {s : String} {d : Decimal} (h : ofText? s = some d)
    (hzero : d.IsSignedZero) : HasNegativeExponent s.toList := by
  rcases Option.or_eq_some_iff.mp h with hplain | ⟨-, hscientific⟩
  · exact absurd hzero (not_isSignedZero_of_ofPlain? hplain)
  · obtain ⟨base, hbase, hrest⟩ := Option.bind_eq_some_iff.mp hscientific
    have hunsigned := not_isSignedZero_of_ofPlain? hbase
    have hsplit := List.takeWhile_append_dropWhile (p := fun c => !(c == 'e' || c == 'E'))
      (l := s.toList)
    have hhead := List.head?_dropWhile_not (fun c => !(c == 'e' || c == 'E')) s.toList
    split at hrest
    · cases hrest
    · rename_i mark exponent hdrop
      rw [hdrop] at hsplit hhead
      have hmark : (!(mark == 'e' || mark == 'E')) = false := hhead
      rw [Bool.not_eq_false', Bool.or_eq_true, beq_iff_eq, beq_iff_eq] at hmark
      exact ⟨_, mark, exponent, hsplit.symm, hmark⟩
    · obtain ⟨places, -, hshift⟩ := Option.bind_eq_some_iff.mp hrest
      exact absurd hzero (not_isSignedZero_of_shiftRight? hunsigned hshift)

/-- Rounding off all digits of a negative number keeps its sign. -/
example : (ofText? "-0.4e-28").map text = some "-0.0000000000000000000000000000" := by
  decide +kernel

end SolrRequest.Number.Decimal

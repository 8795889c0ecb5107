import SolrRequest.Number.Floating

/-!
# Plain numerals

A *plain* numeral is written with digits, a point and digits, without a sign and an exponent. The
text of a floating-point number is one exactly when the number is finite and its sign bit is not set
(`Floating.isPlainNumeral_text_iff`). It is the sign bit that counts: the negative zero has a sign
in its text.
-/

namespace SolrRequest.Number

-- Powers are those of the core library, whatever else is imported.
attribute [local instance (1100)] instPowNat

/-- One digit or more, and nothing else. -/
def IsDigits (s : List Char) : Prop :=
  s ≠ [] ∧ ∀ c ∈ s, c.isDigit = true

/-- Digits, a point, and digits. -/
def IsPlainNumeral (s : String) : Prop :=
  ∃ whole fraction, s.toList = whole ++ '.' :: fraction ∧ IsDigits whole ∧ IsDigits fraction

/-- A plain numeral starts with a digit. -/
theorem not_isPlainNumeral_of_head {s : String} {c : Char} {r : List Char}
    (hs : s.toList = c :: r) (hc : c.isDigit = false) : ¬IsPlainNumeral s := by
  rintro ⟨whole, fraction, h, ⟨hne, hdigits⟩, -⟩
  obtain ⟨d, w, rfl⟩ := List.exists_cons_of_ne_nil hne
  obtain ⟨rfl, -⟩ := List.cons.inj (hs.symm.trans h)
  exact Bool.false_ne_true (hc.symm.trans (hdigits c List.mem_cons_self))

theorem IsPlainNumeral.mem {s : String} (h : IsPlainNumeral s) {c : Char} (hc : c ∈ s.toList) :
    c.isDigit = true ∨ c = '.' := by
  obtain ⟨whole, fraction, hs, ⟨-, hwhole⟩, -, hfraction⟩ := h
  rw [hs] at hc
  rcases List.mem_append.mp hc with hc | hc
  · exact .inl (hwhole c hc)
  · rcases List.mem_cons.mp hc with rfl | hc
    · exact .inr rfl
    · exact .inl (hfraction c hc)

theorem isDigits_natText (n : Nat) : IsDigits (natText n) :=
  ⟨natText_ne_nil n, fun _ => isDigit_of_mem_natText⟩

theorem isDigits_padded (width n : Nat) : IsDigits (padded width n) :=
  ⟨List.append_ne_nil_of_right_ne_nil _ (natText_ne_nil n), fun _ => isDigit_of_mem_padded⟩

/-! ## Numerals without an exponent -/

theorem mem_numeralText {x : Numeral} (he : x.exponent = none) {c : Char} (h : c ∈ x.text) :
    c.isDigit = true ∨ c = '.' ∨ c = '-' := by
  simp only [Numeral.text, Numeral.exponentText, he, List.append_nil, List.mem_append] at h
  rcases h with (h | h) | h
  · split at h
    · exact Or.inr (Or.inr (List.mem_singleton.mp h))
    · cases h
  · exact Or.inl (isDigit_of_mem_natText h)
  · rw [Numeral.fractionText] at h
    split at h
    · cases h
    · rcases List.mem_cons.mp h with rfl | h
      · exact Or.inr (Or.inl rfl)
      · exact Or.inl (isDigit_of_mem_padded h)

/-- Places have to be there, and a sign must not. -/
theorem Numeral.isPlainNumeral_text_iff {x : Numeral} (he : x.exponent = none)
    (hp : x.places ≠ 0) : IsPlainNumeral (String.ofList x.text) ↔ x.negative = false := by
  have htext : x.text = (if x.negative then ['-'] else []) ++
      (natText (x.digits / 10 ^ x.places) ++
        '.' :: padded x.places (x.digits % 10 ^ x.places)) := by
    simp [Numeral.text, Numeral.wholeText, Numeral.fractionText, Numeral.exponentText, he, hp]
  rw [htext]
  cases x.negative with
  | true =>
    have hsign : ('-' : Char).isDigit = false := by decide
    exact iff_of_false (not_isPlainNumeral_of_head String.toList_ofList hsign) nofun
  | false =>
    exact iff_of_true
      ⟨_, _, String.toList_ofList, isDigits_natText _, isDigits_padded _ _⟩ rfl

namespace ScaledDecimal

theorem exponent_positional (negative : Bool) (d : ScaledDecimal) :
    (d.positional negative).exponent = none := by
  unfold positional
  split <;> rfl

theorem negative_positional (negative : Bool) (d : ScaledDecimal) :
    (d.positional negative).negative = negative := by
  unfold positional
  split <;> rfl

theorem places_positional (negative : Bool) (d : ScaledDecimal) :
    (d.positional negative).places ≠ 0 := by
  unfold positional
  split
  · show (-d.exponent).toNat ≠ 0
    omega
  · exact Nat.one_ne_zero

end ScaledDecimal

/-! ## Floating-point numbers -/

namespace Floating

variable {f : BinaryFormat}

/-- A number has letters in its text only when it is not finite. -/
theorem mem_text {x : Floating f} {c : Char} (h : c ∈ x.text.toList) :
    c.isAlphanum = true ∨ c = '.' ∨ c = '-' := by
  have named : ∀ s : String, s.toList.all (fun c => c.isAlphanum || c == '-') = true →
      c ∈ s.toList → c.isAlphanum = true ∨ c = '.' ∨ c = '-' := by
    intro s hs hc
    have hcs := List.all_eq_true.mp hs c hc
    rw [Bool.or_eq_true, beq_iff_eq] at hcs
    exact hcs.imp_right .inr
  unfold text at h
  split at h
  · exact named "NaN" (by decide) h
  · split at h
    · split at h
      · exact named "-Infinity" (by decide) h
      · exact named "Infinity" (by decide) h
    · rw [String.toList_ofList] at h
      refine (mem_numeralText (ScaledDecimal.exponent_positional _ _) h).imp_left fun hdigit => ?_
      rw [Char.isAlphanum, hdigit, Bool.or_true]

theorem finite_cases {x : Floating f} (h : x.isFinite = true) :
    x.isNaN = false ∧ x.isInfinite = false := by
  simp only [isFinite, isNaN, isInfinite, decide_eq_true_eq, decide_eq_false_iff_not,
    beq_eq_false_iff_ne] at h ⊢
  omega

theorem text_of_isFinite {x : Floating f} (h : x.isFinite = true) :
    x.text = String.ofList ((x.decimal .up).positional x.negative).text := by
  obtain ⟨hnan, hinf⟩ := finite_cases h
  simp only [text, hnan, hinf, Bool.false_eq_true, if_false]

/-- Zero keeps its sign. -/
theorem text_of_negativeZero {x : Floating f} (h : x.isFinite = true)
    (hnegative : x.negative = true) (hzero : x.isZero = true) : x.text = "-0.0" := by
  rw [text_of_isFinite h, decimal, if_pos hzero, hnegative]
  decide

/-- The text of a number is plain exactly when the number is finite and has no sign. -/
theorem isPlainNumeral_text_iff (x : Floating f) :
    IsPlainNumeral x.text ↔ x.isFinite = true ∧ x.negative = false := by
  by_cases hfinite : x.isFinite = true
  · rw [text_of_isFinite hfinite, and_iff_right hfinite]
    have hplain := Numeral.isPlainNumeral_text_iff
      (ScaledDecimal.exponent_positional x.negative (x.decimal .up))
      (ScaledDecimal.places_positional _ _)
    rwa [ScaledDecimal.negative_positional] at hplain
  · refine iff_of_false ?_ fun h => hfinite h.1
    unfold text
    split
    · exact not_isPlainNumeral_of_head (c := 'N') rfl (by decide)
    · split
      · split
        · exact not_isPlainNumeral_of_head (c := '-') rfl (by decide)
        · exact not_isPlainNumeral_of_head (c := 'I') rfl (by decide)
      · rename_i hnan hinf
        refine absurd ?_ hfinite
        simp only [isNaN, isInfinite, isFinite, beq_iff_eq, decide_eq_true_eq] at hnan hinf ⊢
        omega

end Floating

end SolrRequest.Number

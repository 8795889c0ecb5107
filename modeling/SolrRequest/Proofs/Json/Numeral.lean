import SolrRequest.Json.Parse
import SolrRequest.Proofs.Number.Digits

/-!
# Reading numerals back

A numeral is read back from its text as it stands, with its places and its exponent, whatever
follows it but a digit, a point or the mark of an exponent (`scanNumeral_text`).
-/

namespace SolrRequest.Json

open Number Text

-- Powers are those of the core library, whatever else is imported.
attribute [local instance (1100)] instPowNat

/-- The characters that a numeral can go on with. -/
def continuesNumeral (c : Char) : Bool :=
  c.isDigit || c == '.' || c == 'e' || c == 'E'

theorem startsOutside_imp {p q : Char → Bool} (hpq : ∀ c, p c = true → q c = true)
    {s : List Char} (h : StartsOutside q s) : StartsOutside p s := by
  intro c hc
  have hq := h c hc
  cases hp : p c with
  | false => rfl
  | true => exact absurd (hpq c hp) (by rw [hq]; decide)

theorem scanWhole_natText (n : Nat) {x : List Char} (hx : StartsOutside Char.isDigit x) :
    scanWhole (natText n ++ x) = some (natText n, x) := by
  rw [scanWhole, takeDigits_run (fun c hc => isDigit_of_mem_natText hc) hx]
  obtain ⟨c, r, hhead, _⟩ := natText_head (n := n)
  by_cases hzero : c = '0'
  · subst hzero
    rw [hhead, natText_leadingZero hhead]
    rfl
  · rw [hhead]
    dsimp only
    split
    · next h => cases h
    · next h => exact absurd (List.cons.inj h).1 hzero
    · next h => exact absurd (List.cons.inj h).1 hzero
    · rfl

theorem scanFraction_fractionText (n : Numeral) {x : List Char}
    (hx : StartsOutside (fun c => c.isDigit || c == '.') x) :
    scanFraction (n.fractionText ++ x) = some (n.fractionDigits, x) := by
  have hxDigit : StartsOutside Char.isDigit x :=
    startsOutside_imp (fun c hc => by rw [hc]; rfl) hx
  unfold Numeral.fractionText
  by_cases hzero : n.places = 0
  · have hnone : n.fractionDigits = [] := if_pos hzero
    rw [if_pos hzero, hnone, List.nil_append]
    cases x with
    | nil => rfl
    | cons c r =>
      have hc : c ≠ '.' := by
        rintro rfl
        exact absurd (hx '.' rfl) (by decide)
      exact scanFraction.eq_2 _ fun _ e => hc (List.cons.inj e).1
  · have hdigits : padded n.places (n.digits % 10 ^ n.places) = n.fractionDigits :=
      (if_neg hzero).symm
    have hne : n.fractionDigits ≠ [] := by
      intro hnil
      have hlength := n.length_fractionDigits
      rw [hnil] at hlength
      exact hzero hlength.symm
    rw [if_neg hzero, hdigits, List.cons_append, scanFraction,
      takeDigits_run (fun c hc => n.isDigit_of_mem_fractionDigits hc) hxDigit]
    exact if_neg hne

theorem scanExponentDigits_natText (e : Int) {x : List Char}
    (hx : StartsOutside Char.isDigit x) :
    scanExponentDigits ((if e < 0 then '-' else '+') :: natText e.natAbs ++ x) = some (e, x) := by
  have hrun := takeDigits_run (fun c hc => isDigit_of_mem_natText (n := e.natAbs) hc) hx
  rw [List.cons_append]
  by_cases hneg : e < 0
  · have he : -1 * (e.natAbs : Int) = e := by omega
    simp only [hneg, if_true, scanExponentDigits, hrun, natText_ne_nil, if_false,
      digitsValue_natText, he]
  · have he : 1 * (e.natAbs : Int) = e := by omega
    simp only [hneg, if_false, scanExponentDigits, hrun, natText_ne_nil, if_false,
      digitsValue_natText, he]

theorem scanExponent_exponentText (n : Numeral) {x : List Char}
    (hx : StartsOutside continuesNumeral x) :
    scanExponent (n.exponentText ++ x) = some (n.exponent, x) := by
  unfold Numeral.exponentText
  cases he : n.exponent with
  | none =>
    cases x with
    | nil => rfl
    | cons c r =>
      have hc := hx c rfl
      simp only [continuesNumeral, Bool.or_eq_false_iff, beq_eq_false_iff_ne] at hc
      rw [List.nil_append, scanExponent, if_neg (by rintro (h | h) <;> simp_all)]
  | some e =>
    have hdigits := scanExponentDigits_natText e (startsOutside_imp (fun c hc => by
      simp [continuesNumeral, hc]) hx)
    rw [List.cons_append] at hdigits ⊢
    rw [scanExponent, if_pos (Or.inl rfl), List.cons_append, hdigits]
    rfl

/-- **Numerals read back.** The text of a numeral is read as that numeral. -/
theorem scanNumeral_text (n : Numeral) {x : List Char} (hx : StartsOutside continuesNumeral x) :
    scanNumeral (n.text ++ x) = some (n, x) := by
  have hexponent : StartsOutside (fun c => c.isDigit || c == '.') (n.exponentText ++ x) := by
    unfold Numeral.exponentText
    cases n.exponent with
    | none => exact startsOutside_imp (fun c hc => by simp [continuesNumeral, hc]) hx
    | some e => exact startsOutside_cons (by decide) _
  have hfraction : StartsOutside Char.isDigit (n.fractionText ++ (n.exponentText ++ x)) := by
    unfold Numeral.fractionText
    split
    · exact startsOutside_imp (fun c hc => by rw [hc]; rfl) hexponent
    · exact startsOutside_cons (by decide) _
  have hsign : takeMinus (n.text ++ x) = (n.negative, natText (n.digits / 10 ^ n.places) ++
      (n.fractionText ++ (n.exponentText ++ x))) := by
    obtain ⟨c, r, hhead, hc⟩ := natText_head (n := n.digits / 10 ^ n.places)
    have hminus : c ≠ '-' := by
      rintro rfl
      exact absurd hc (by decide)
    simp only [Numeral.text, Numeral.wholeText, List.append_assoc]
    cases n.negative with
    | true => rfl
    | false =>
      rw [hhead]
      exact takeMinus.eq_2 _ fun _ e => hminus (List.cons.inj e).1
  have hdigits := n.digitsValue_text
  rw [Numeral.wholeText] at hdigits
  simp only [scanNumeral, hsign, scanWhole_natText _ hfraction,
    scanFraction_fractionText n hexponent, scanExponent_exponentText n hx, Option.bind_eq_bind,
    Option.bind_some, hdigits, n.length_fractionDigits]
  rfl

end SolrRequest.Json

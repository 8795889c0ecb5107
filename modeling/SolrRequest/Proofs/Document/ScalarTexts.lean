import SolrRequest.Proofs.Document.Scalars
import SolrRequest.Proofs.Json.Reading

/-!
# The texts of scalars as contents of documents

Truth values, integers, decimals and dates have texts that can be put back into a document, as they
stand or as JSON strings, and what is read there is the same value, but for what the text does not
say: the digits of a fraction of a second that were cut off, and the sign of a zero
(`Conversion.scalars_read_back`). A document of a decimal gives a zero with a sign only where it
rounds off all digits of a negative number (`Decimal.hasNegativeExponent_of_isSignedZero`), and such
a sign is lost on the way back (`Conversion.roundedAway_loses_sign`).
-/

namespace SolrRequest

open Number Time

-- Powers are those of the core library, whatever else is imported.
attribute [local instance (1100)] instPowNat

/-- The fraction digits of a conversion are those that it was built with, or three. -/
theorem Conversion.digits_of_build {converters : Table (String → String)} {digits : Option UInt8}
    {c : Conversion} (h : build converters digits = .ok c) :
    c.precision.digits = (digits.map UInt8.toNat).getD 3 := by
  unfold build at h
  split at h
  · cases h
    rfl
  · rename_i n
    split at h
    · rename_i precision hprecision
      cases h
      have hfound := List.find?_some hprecision
      exact beq_iff_eq.mp hfound
    · cases h

namespace Value

def IsScalar : Value → Prop
  | bool _ | integer _ | decimal _ | dateTime _ => True
  | _ => False

/-- The type and the content of a document with the text of a scalar. Truth values and integers
are JSON texts themselves, the texts of decimals and dates are put into JSON strings. -/
def content? (text : String) : Value → Option (String × Json)
  | bool _ => (Json.parse? text).map ("bool", ·)
  | integer _ => (Json.parse? text).map ("integer", ·)
  | decimal _ => some ("decimal", .string text)
  | dateTime _ => some ("date_time", .string text)
  | _ => none

/-- What comes back of a scalar from its text with so many fraction digits of a second. A decimal
keeps its digits and places, and its sign unless it is a zero; the fraction of a date is cut. -/
inductive ComesBack (digits : Nat) : Value → Value → Prop where
  | bool (b : Bool) : ComesBack digits (bool b) (bool b)
  | integer (i : Int64) : ComesBack digits (integer i) (integer i)
  | decimal {d e : Decimal} (hequal : (e == d) = true) (hmantissa : e.mantissa = d.mantissa)
    (hscale : e.scale = d.scale) (hnegative : e.negative = (d.negative && d.mantissa != 0)) :
    ComesBack digits (decimal d) (decimal e)
  | dateTime {t u : Instant} (hdate : u.date = t.date) (hsecond : u.second = t.second)
    (hleap : u.isLeap = t.isLeap)
    (hfraction : u.fraction = t.fraction / 10 ^ (9 - digits) * 10 ^ (9 - digits)) :
    ComesBack digits (dateTime t) (dateTime u)

/-- What a scalar is read as from its text. -/
def told (p : Precision) : Value → Value
  | dateTime t => dateTime (t.cut p.digits)
  | v => v.unsigned

theorem comesBack_told (p : Precision) {v : Value} (h : v.IsScalar) :
    v.ComesBack p.digits (v.told p) := by
  cases v with
  | bool b => exact .bool b
  | integer i => exact .integer i
  | decimal d => exact .decimal d.unsigned_beq rfl rfl rfl
  | dateTime t => exact .dateTime rfl rfl (t.isLeap_cut p) (t.fraction_cut p)
  | _ => exact h.elim

/-! ## Contents -/

theorem chars_ofInt (i : Int) : (Json.ofInt i).chars = intText i := by
  show (Numeral.ofInt i).text = intText i
  have hplaces : (Numeral.ofInt i).wholeText = natText i.natAbs := by
    rw [Numeral.wholeText, Numeral.ofInt, Nat.pow_zero, Nat.div_one]
  rw [Numeral.text, hplaces, Numeral.fractionText, Numeral.exponentText]
  cases i with
  | ofNat n => simp [Numeral.ofInt, intText]
  | negSucc n => simp [Numeral.ofInt, intText]

/-- The text of a scalar is the content of a document, and is read as what it tells. -/
theorem exists_content (c : Conversion) {v : Value} (h : v.IsScalar) :
    ∃ text type content, c.text? v = some text ∧ v.content? text = some (type, content) ∧
      content.Denotes (fun d => ofContent? type (some d)) (v.told c.precision) := by
  cases v with
  | bool b =>
    have htext : (if b then "true" else "false") = (Json.bool b).text := by
      cases b <;> decide
    have hparse : Json.parse? (Json.bool b).text = some (.bool b) :=
      Json.parse?_text rfl (Nat.zero_le _)
    refine ⟨(Json.bool b).text, "bool", .bool b, congrArg some htext, ?_,
      (Json.Denotes.bool b).map bool⟩
    rw [content?, hparse, Option.map_some]
  | integer i =>
    have htext : String.ofList (intText i.toInt) = (Json.ofInt i.toInt).text :=
      congrArg String.ofList (chars_ofInt i.toInt).symm
    have hparse : Json.parse? (Json.ofInt i.toInt).text = some (.ofInt i.toInt) :=
      Json.parse?_text rfl (Nat.zero_le _)
    refine ⟨(Json.ofInt i.toInt).text, "integer", .ofInt i.toInt, congrArg some htext, ?_,
      (Json.Denotes.int64 i).map integer⟩
    rw [content?, hparse, Option.map_some]
  | decimal d => exact ⟨_, _, _, rfl, rfl, d.denotes.map decimal⟩
  | dateTime t =>
    have hdenotes : (Json.string (t.text c.precision)).Denotes Instant.ofDocument?
        (t.cut c.precision.digits) := ⟨fun _ => t.ofText?_text _, rfl⟩
    exact ⟨_, _, _, rfl, rfl, hdenotes.map dateTime⟩
  | _ => exact h.elim

end Value

/-! ## Signs of zeros -/

/-- A document of a decimal in scientific notation, with a negative exponent. -/
def Document.HasNegativeExponent (source : Document) : Prop :=
  ∃ s held,
    source.tagged? "type" "value" Value.types = some ("decimal", some ⟨.string s, held⟩) ∧
      Decimal.HasNegativeExponent s.toList

theorem Value.decimal_of_ofContent? {type : String} {content : Option Document} {d : Decimal}
    (h : ofContent? type content = some (.decimal d)) :
    type = "decimal" ∧ ∃ part, content = some part ∧ Decimal.ofDocument? part = some d := by
  unfold ofContent? at h
  -- only one type has decimals; the contents of the others are read as values of their own kinds
  split at h
  case h_1 => split at h <;> cases h
  case h_5 =>
    obtain ⟨part, hpart, h⟩ := Option.bind_eq_some_iff.mp h
    obtain ⟨e, he, hsame⟩ := Option.map_eq_some_iff.mp h
    cases hsame
    exact ⟨rfl, part, hpart, he⟩
  case h_11 => cases h
  all_goals
    obtain ⟨_, _, h⟩ := Option.bind_eq_some_iff.mp h
    obtain ⟨_, _, hsame⟩ := Option.map_eq_some_iff.mp h
    cases hsame

theorem Number.Decimal.hasNegativeExponent_of_ofDocument? {part : Document} {d : Decimal}
    (h : Decimal.ofDocument? part = some d) (hzero : d.IsSignedZero) :
    ∃ s, part.value = .string s ∧ Decimal.HasNegativeExponent s.toList := by
  unfold Decimal.ofDocument? at h
  split at h
  · rename_i s held
    exact ⟨s, rfl, Decimal.hasNegativeExponent_of_isSignedZero h hzero⟩
  · split at h
    · exact absurd hzero (Decimal.not_isSignedZero_of_ofInt? h)
    · obtain ⟨x, -, hplain⟩ := Option.bind_eq_some_iff.mp h
      exact absurd hzero (Decimal.not_isSignedZero_of_ofPlain? hplain)
  · cases h

/-- A scalar from a document is told whole, but for the fraction of a date, and for the sign of a
zero that a negative exponent has made. -/
theorem Value.told_eq_or {source : Document} {v : Value} (h : ofDocument? source = some v)
    (p : Precision) :
    v.told p = v ∨ (∃ t, v = .dateTime t) ∨ source.HasNegativeExponent := by
  cases v with
  | decimal d =>
    by_cases hzero : d.IsSignedZero
    · obtain ⟨⟨type, content⟩, htagged, hcontent⟩ := Option.bind_eq_some_iff.mp h
      obtain ⟨rfl, ⟨_, held⟩, rfl, hpart⟩ := decimal_of_ofContent? hcontent
      obtain ⟨s, rfl, hexponent⟩ := Decimal.hasNegativeExponent_of_ofDocument? hpart hzero
      exact .inr (.inr ⟨s, held, htagged, hexponent⟩)
    · exact .inl (congrArg decimal (Decimal.unsigned_eq_self hzero))
  | dateTime t => exact .inr (.inl ⟨t, rfl⟩)
  | _ => exact .inl rfl

/-! ## Reading back -/

/-- **The texts of scalars read back.** The text of a truth value, an integer, a decimal or a date
that a document gives can be put into any document of its type, and is read there as the same
value: with the fraction of a date cut to the digits of the conversion, in leap seconds and far
years as well; and with the digits, places and sign of a decimal, except for the sign of a zero,
which only a negative exponent can have made. -/
theorem Conversion.scalars_read_back {converters : Table (String → String)} {digits : Option UInt8}
    {c : Conversion} (hbuild : build converters digits = .ok c) {source : Document} {v : Value}
    (hread : Value.ofDocument? source = some v) (hscalar : v.IsScalar) :
    ∃ text type content back,
      c.text? v = some text ∧ v.content? text = some (type, content) ∧
      (∀ held, Value.ofDocument? ⟨Value.withType type content, held⟩ = some back) ∧
      (∀ doc held,
        doc.tagged? "type" "value" Value.types = some (type, some ⟨content, held⟩) →
          Value.ofDocument? doc = some back) ∧
      v.ComesBack ((digits.map UInt8.toNat).getD 3) back ∧
      (back = v ∨ (∃ t, v = .dateTime t) ∨ source.HasNegativeExponent) := by
  obtain ⟨text, type, content, htext, hcontent, hdenotes⟩ := Value.exists_content c hscalar
  have hdocument : ∀ doc held,
      doc.tagged? "type" "value" Value.types = some (type, some ⟨content, held⟩) →
        Value.ofDocument? doc = some (v.told c.precision) := by
    intro doc held htagged
    rw [Value.ofDocument?, htagged]
    exact hdenotes.reads held
  refine ⟨text, type, content, v.told c.precision, htext, hcontent, ?_, hdocument, ?_, ?_⟩
  · intro held
    exact hdocument _ held (Document.tagged?_withContent _ _ _ _ (by decide))
  · rw [← digits_of_build hbuild]
    exact Value.comesBack_told c.precision hscalar
  · exact Value.told_eq_or hread c.precision

/-- A leap second before the first year. -/
def farLeapSecond : Instant where
  date := ⟨-1, 6, 30, by decide⟩
  second := 86399
  nanosecond := 1987600000
  second_lt := by decide
  nanosecond_lt := by decide
  leap := by decide

/-- It is given with an offset, and cut to milliseconds. -/
theorem farLeapSecond_reads_back :
    let source := Document.ofJson
      (Value.withType "date_time" (.string "-0001-07-01T01:59:60.9876+02:00"))
    let text := "-0001-06-30T23:59:60.987Z"
    Conversion.build [] (some 3) = .ok .default ∧
      Value.ofDocument? source = some (.dateTime farLeapSecond) ∧
      (Value.dateTime farLeapSecond).IsScalar ∧
      Conversion.default.text? (.dateTime farLeapSecond) = some text ∧
      ∃ back, Value.ofDocument? (.ofJson (Value.withType "date_time" (.string text))) = some back ∧
        (Value.dateTime farLeapSecond).ComesBack 3 back := by
  intro source text
  have hbuild : Conversion.build [] (some 3) = .ok .default := rfl
  have hread : Value.ofDocument? source = some (.dateTime farLeapSecond) := by decide +kernel
  have hwritten : Conversion.default.text? (.dateTime farLeapSecond) = some text := by
    decide +kernel
  obtain ⟨written, type, content, back, htext, hcontent, hdocument, -, hback, -⟩ :=
    Conversion.scalars_read_back hbuild hread trivial
  cases hcontent
  cases htext.symm.trans hwritten
  exact ⟨hbuild, hread, trivial, htext, back, hdocument false, hback⟩

/-- The digits of this negative number are all rounded off, and the sign that is left does not come
back from its text. The decimals are equal for all that. -/
theorem Conversion.roundedAway_loses_sign :
    let source := Document.ofJson (Value.withType "decimal" (.string "-0.4e-28"))
    let text := "-0.0000000000000000000000000000"
    ∃ d e, Value.ofDocument? source = some (.decimal d) ∧
      Conversion.default.text? (.decimal d) = some text ∧
      Value.ofDocument? (.ofJson (Value.withType "decimal" (.string text))) = some (.decimal e) ∧
      d.negative = true ∧ e.negative = false ∧ (e == d) = true := by
  refine ⟨⟨true, 0, 28, by decide, by decide⟩, ⟨false, 0, 28, by decide, by decide⟩, ?_⟩
  decide +kernel

end SolrRequest

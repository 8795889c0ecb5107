import SolrRequest.Text.Percent

/-!
# Percent encoding undone

An encoded text consists of unreserved characters and of escapes, a percent sign with two digits of
base sixteen each (`encoded_percentEncode`), and it is decoded to the text that it was made from
(`decodeText?_percentEncode`): byte by byte first, and then the bytes as UTF-8.
-/

namespace SolrRequest.Text

/-! ## The characters of encoded texts -/

/-- A letter or digit of ASCII, or one of the four marks that stand for themselves. -/
def IsUnreserved (c : Char) : Prop :=
  c.isAlphanum = true ∨ c = '-' ∨ c = '.' ∨ c = '_' ∨ c = '~'

instance (c : Char) : Decidable (IsUnreserved c) := by
  unfold IsUnreserved
  infer_instance

def IsHexDigit (c : Char) : Prop :=
  c ∈ "0123456789ABCDEF".toList

instance (c : Char) : Decidable (IsHexDigit c) := by
  unfold IsHexDigit
  infer_instance

/-- A text of characters of a class and of escapes. -/
inductive IsEncoded (plain : Char → Prop) : List Char → Prop where
  | nil : IsEncoded plain []
  | cons {c : Char} {r : List Char} : plain c → IsEncoded plain r → IsEncoded plain (c :: r)
  | escape {a b : Char} {r : List Char} :
    IsHexDigit a → IsHexDigit b → IsEncoded plain r → IsEncoded plain ('%' :: a :: b :: r)

namespace IsEncoded

variable {plain other : Char → Prop} {s t : List Char}

theorem append (hs : IsEncoded plain s) (ht : IsEncoded plain t) : IsEncoded plain (s ++ t) := by
  induction hs with
  | nil => exact ht
  | cons hc _ ih => exact .cons hc ih
  | escape ha hb _ ih => exact .escape ha hb ih

theorem mono (h : ∀ c, plain c → other c) (hs : IsEncoded plain s) : IsEncoded other s := by
  induction hs with
  | nil => exact .nil
  | cons hc _ ih => exact .cons (h _ hc) ih
  | escape ha hb _ ih => exact .escape ha hb ih

theorem flatMap {α : Type} {f : α → List Char} (h : ∀ a, IsEncoded plain (f a)) (l : List α) :
    IsEncoded plain (l.flatMap f) := by
  induction l with
  | nil => exact .nil
  | cons a r ih =>
    rw [List.flatMap_cons]
    exact (h a).append ih

/-- A character that is neither of the class nor part of an escape is nowhere in the text. -/
theorem not_mem (hs : IsEncoded plain s) {c : Char} (hc : ¬plain c) (hpercent : c ≠ '%')
    (hhex : ¬IsHexDigit c) : c ∉ s := by
  induction hs with
  | nil => exact List.not_mem_nil
  | cons hd _ ih =>
    rintro (_ | ⟨_, hmem⟩)
    · exact hc hd
    · exact ih hmem
  | escape ha hb _ ih =>
    rintro (_ | ⟨_, _ | ⟨_, _ | ⟨_, hmem⟩⟩⟩)
    · exact hpercent rfl
    · exact hhex ha
    · exact hhex hb
    · exact ih hmem

end IsEncoded

theorem isUnreserved_ofNat {b : UInt8} (h : isUnreserved b = true) :
    IsUnreserved (Char.ofNat b.toNat) := by
  simp only [isUnreserved, Bool.and_eq_true, Bool.or_eq_true, beq_iff_eq] at h
  simpa only [IsUnreserved, or_assoc] using h.2

theorem isHexDigit_upperHexDigit : ∀ n < 16, IsHexDigit (upperHexDigit n) := by
  decide

theorem encoded_percentByte (b : UInt8) : IsEncoded IsUnreserved (percentByte b) := by
  have hb : b.toNat < 256 := b.toNat_lt
  unfold percentByte
  split
  · rename_i h
    exact .cons (isUnreserved_ofNat h) .nil
  · apply IsEncoded.escape _ _ .nil
    · exact isHexDigit_upperHexDigit _ (by omega)
    · exact isHexDigit_upperHexDigit _ (by omega)

theorem encoded_percentEncode (s : String) : IsEncoded IsUnreserved (percentEncode s) :=
  .flatMap encoded_percentByte _

/-! ## Decoding -/

theorem hexDigitValue?_upperHexDigit :
    ∀ n < 16, hexDigitValue? (upperHexDigit n) = some n := by
  decide

/-- A byte is decoded, and decoding goes on behind it. -/
theorem percentDecode?_percentByte (b : UInt8) (r : List Char) :
    percentDecode? (percentByte b ++ r) = (percentDecode? r).map (b :: ·) := by
  have hb : b.toNat < 256 := b.toNat_lt
  unfold percentByte
  split
  · rename_i h
    have hascii : b.toNat < 128 := by
      simp only [isUnreserved, Bool.and_eq_true, decide_eq_true_eq] at h
      exact h.1
    have hchar : (Char.ofNat b.toNat).toNat = b.toNat := by
      rw [Char.ofNat, dif_pos (Or.inl (by omega))]
      rfl
    have hpercent : Char.ofNat b.toNat ≠ '%' := by
      intro hc
      exact absurd (hc ▸ isUnreserved_ofNat h) (by decide : ¬IsUnreserved '%')
    rw [List.singleton_append, percentDecode?.eq_4 _ _ (fun _ _ _ hc _ => hpercent hc) hpercent,
      hchar, UInt8.ofNat_toNat]
  · have hhigh := hexDigitValue?_upperHexDigit (b.toNat / 16) (by omega)
    have hlow := hexDigitValue?_upperHexDigit (b.toNat % 16) (by omega)
    have hbyte : UInt8.ofNat (16 * (b.toNat / 16) + b.toNat % 16) = b := by
      rw [Nat.div_add_mod, UInt8.ofNat_toNat]
    rw [List.cons_append, List.cons_append, List.singleton_append, percentDecode?, hhigh, hlow]
    simp only [Option.bind_eq_bind, Option.bind_some, hbyte]
    cases percentDecode? r <;> rfl

theorem percentDecode?_flatMap (bytes : List UInt8) :
    percentDecode? (bytes.flatMap percentByte) = some bytes := by
  induction bytes with
  | nil => rfl
  | cons b r ih => rw [List.flatMap_cons, percentDecode?_percentByte, ih, Option.map_some]

/-- The text that an encoded text stands for, if its bytes are UTF-8. -/
def decodeText? (s : List Char) : Option String :=
  (percentDecode? s).bind fun bytes => String.fromUTF8? bytes.toByteArray

theorem decodeText?_percentEncode (s : String) : decodeText? (percentEncode s) = some s := by
  have hbytes : (utf8Bytes s).toByteArray = s.toByteArray := String.utf8Encode_toList
  rw [decodeText?, percentEncode, percentDecode?_flatMap, Option.bind_some, hbytes,
    String.fromUTF8?, dif_pos s.isValidUTF8]
  rfl

end SolrRequest.Text

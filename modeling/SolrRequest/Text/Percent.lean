/-!
# Percent encoding

A text in a query string is written as its UTF-8 bytes. Letters and digits of ASCII and the
characters `-`, `.`, `_` and `~` stand for themselves, every other byte is written as a percent
sign and two digits of base sixteen. `percentDecode?` reads the bytes back.
-/

namespace SolrRequest.Text

/-- A byte that stands for itself. -/
def isUnreserved (b : UInt8) : Bool :=
  let c := Char.ofNat b.toNat
  b.toNat < 128 && (c.isAlphanum || c == '-' || c == '.' || c == '_' || c == '~')

/-- A digit of base sixteen, in upper case. -/
def upperHexDigit (n : Nat) : Char :=
  (Nat.digitChar n).toUpper

/-- The value of a digit of base sixteen. -/
def hexDigitValue? (c : Char) : Option Nat :=
  (List.range 16).find? fun n => upperHexDigit n == c.toUpper

/-- A byte in a query string. -/
def percentByte (b : UInt8) : List Char :=
  if isUnreserved b then [Char.ofNat b.toNat]
  else ['%', upperHexDigit (b.toNat / 16), upperHexDigit (b.toNat % 16)]

/-- The UTF-8 bytes of a text. -/
def utf8Bytes (s : String) : List UInt8 :=
  s.toList.flatMap String.utf8EncodeChar

/-- A text in a query string. -/
def percentEncode (s : String) : List Char :=
  (utf8Bytes s).flatMap percentByte

/-- The bytes that an encoded text stands for. -/
def percentDecode? : List Char → Option (List UInt8)
  | [] => some []
  | '%' :: a :: b :: r => do
    let high ← hexDigitValue? a
    let low ← hexDigitValue? b
    let rest ← percentDecode? r
    return UInt8.ofNat (16 * high + low) :: rest
  | '%' :: _ => none
  | c :: r => (percentDecode? r).map (UInt8.ofNat c.toNat :: ·)

example : String.ofList (percentEncode "a b/é") = "a%20b%2F%C3%A9" := by decide

end SolrRequest.Text

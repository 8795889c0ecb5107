import SolrRequest.Json.Value
import SolrRequest.Number.Reading

/-!
# Reading JSON

The grammar is strict: no leading zeros, no trailing commas, no bare control characters in
strings, nothing but white space after the value. Arrays and objects may be nested `maxDepth`
deep; what is deeper is unreadable, and so is a string with half of a surrogate pair.

The readers take a bound on the number of steps, which the length of the text always covers.
-/

namespace SolrRequest.Json

open Number

/-- White space between the parts of a JSON text. -/
def isJsonSpace (c : Char) : Bool :=
  c == ' ' || c == '\t' || c == '\n' || c == '\r'

/-- The text without the white space it starts with. -/
def skipSpace (s : List Char) : List Char :=
  s.dropWhile isJsonSpace

/-! ## Strings -/

/-- What one step of a quoted text yields: a character, or a unit of sixteen bits. -/
inductive Piece where
  | char (c : Char)
  | unit (u : Nat)
deriving Repr, DecidableEq

/-- The value of a digit of base sixteen. -/
def hexValue? (c : Char) : Option Nat :=
  if '0' ≤ c ∧ c ≤ '9' then some (c.toNat - '0'.toNat)
  else if 'a' ≤ c ∧ c ≤ 'f' then some (c.toNat - 'a'.toNat + 10)
  else if 'A' ≤ c ∧ c ≤ 'F' then some (c.toNat - 'A'.toNat + 10)
  else none

/-- The value of four digits of base sixteen. -/
def hexUnit? (a b c d : Char) : Option Nat := do
  return ((← hexValue? a) * 16 + (← hexValue? b)) * 256 + (← hexValue? c) * 16 + (← hexValue? d)

/-- The character that a one-letter escape stands for. -/
def shortEscape? (c : Char) : Option Char :=
  if c = '"' ∨ c = '\\' ∨ c = '/' then some c
  else if c = 'b' then some '\x08'
  else if c = 'f' then some '\x0c'
  else if c = 'n' then some '\n'
  else if c = 'r' then some '\r'
  else if c = 't' then some '\t'
  else none

/-- Reads a quoted text up to its closing quote; the opening one has been read. -/
def scanString : List Char → Option (List Piece × List Char)
  | [] => none
  | '"' :: r => some ([], r)
  | '\\' :: 'u' :: a :: b :: c :: d :: r => do
    let u ← hexUnit? a b c d
    let (pieces, rest) ← scanString r
    return (.unit u :: pieces, rest)
  | '\\' :: e :: r => do
    let c ← shortEscape? e
    let (pieces, rest) ← scanString r
    return (.char c :: pieces, rest)
  | c :: r =>
    if c.toNat < 0x20 ∨ c = '\\' then none
    else do
      let (pieces, rest) ← scanString r
      return (.char c :: pieces, rest)

/-- The first half of a surrogate pair. -/
def isHighSurrogate (u : Nat) : Bool :=
  0xD800 ≤ u && u < 0xDC00

/-- The second half of a surrogate pair. -/
def isLowSurrogate (u : Nat) : Bool :=
  0xDC00 ≤ u && u < 0xE000

/-- Joins surrogate pairs; half a pair has no meaning. -/
def joinPieces : List Piece → Option (List Char)
  | [] => some []
  | .char c :: r => (joinPieces r).map (c :: ·)
  | .unit high :: .unit low :: r =>
    if isHighSurrogate high then
      if isLowSurrogate low then
        (joinPieces r).map
          (Char.ofNat (0x10000 + (high - 0xD800) * 0x400 + (low - 0xDC00)) :: ·)
      else none
    else if isLowSurrogate high then none
    else (joinPieces (.unit low :: r)).map (Char.ofNat high :: ·)
  | .unit u :: r =>
    if isHighSurrogate u || isLowSurrogate u then none
    else (joinPieces r).map (Char.ofNat u :: ·)

/-- The value of a quoted text. -/
def ofPieces (pieces : List Piece) : Json :=
  match joinPieces pieces with
  | some s => .string (String.ofList s)
  | none => .unreadable

/-! ## Numbers -/

/-- Reads the digits before the point: a zero alone, or digits that start with another one. -/
def scanWhole (s : List Char) : Option (List Char × List Char) :=
  let (digits, rest) := takeDigits s
  match digits with
  | [] => none
  | ['0'] => some (digits, rest)
  | '0' :: _ => none
  | _ => some (digits, rest)

/-- Reads an optional point with digits after it. -/
def scanFraction : List Char → Option (List Char × List Char)
  | '.' :: s =>
    let (digits, rest) := takeDigits s
    if digits = [] then none else some (digits, rest)
  | s => some ([], s)

/-- Reads the digits of an exponent, with a sign or without. -/
def scanExponentDigits (s : List Char) : Option (Int × List Char) :=
  let (sign, s) : Int × List Char := match s with
    | '+' :: r => (1, r)
    | '-' :: r => (-1, r)
    | _ => (1, s)
  let (digits, rest) := takeDigits s
  if digits = [] then none else some (sign * digitsValue digits, rest)

/-- Reads an optional exponent. -/
def scanExponent (s : List Char) : Option (Option Int × List Char) :=
  match s with
  | [] => some (none, s)
  | c :: r =>
    if c = 'e' ∨ c = 'E' then (scanExponentDigits r).map fun (e, rest) => (some e, rest)
    else some (none, s)

/-- Splits a minus sign off a text. -/
def takeMinus : List Char → Bool × List Char
  | '-' :: r => (true, r)
  | s => (false, s)

/-- Reads a numeral. -/
def scanNumeral (s : List Char) : Option (Numeral × List Char) := do
  let (negative, s) := takeMinus s
  let (whole, s) ← scanWhole s
  let (fraction, s) ← scanFraction s
  let (exponent, s) ← scanExponent s
  return (⟨negative, digitsValue (whole ++ fraction), fraction.length, exponent⟩, s)

/-! ## Values -/

/-- How deeply arrays and objects may be nested. -/
def maxDepth : Nat := 127

/-- An array or object, if it does not exceed the depth still allowed. -/
def nested (depth : Nat) (j : Json) : Json :=
  if depth = 0 then .unreadable else j

/-- The member of a name and a value. -/
def member? (name : List Piece) (j : Json) : Option Member :=
  (joinPieces name).map fun s => ⟨String.ofList s, j⟩

/-- An object of scanned members; a name without a meaning makes it unreadable. -/
def ofScanned (members : List (Option Member)) : Json :=
  if members.all Option.isSome then .object (members.filterMap id) else .unreadable

mutual

/-- Reads a value at a depth of nesting still allowed. -/
def scanValue : Nat → Nat → List Char → Option (Json × List Char)
  | 0, _, _ => none
  | steps + 1, depth, s =>
    match s with
    | 'n' :: 'u' :: 'l' :: 'l' :: r => some (.null, r)
    | 't' :: 'r' :: 'u' :: 'e' :: r => some (.bool true, r)
    | 'f' :: 'a' :: 'l' :: 's' :: 'e' :: r => some (.bool false, r)
    | '"' :: r => (scanString r).map fun (pieces, rest) => (ofPieces pieces, rest)
    | '[' :: r =>
      match skipSpace r with
      | ']' :: rest => some (nested depth (.array []), rest)
      | r =>
        (scanItems steps (depth - 1) r).map fun (items, rest) =>
          (nested depth (.array items), rest)
    | '\x7b' :: r =>
      match skipSpace r with
      | '\x7d' :: rest => some (nested depth (.object []), rest)
      | r =>
        (scanMembers steps (depth - 1) r).map fun (members, rest) =>
          (nested depth (ofScanned members), rest)
    | s => (scanNumeral s).map fun (n, rest) => (.number n, rest)

/-- Reads the items of an array and the bracket that closes it; one item at least. -/
def scanItems : Nat → Nat → List Char → Option (List Json × List Char)
  | 0, _, _ => none
  | steps + 1, depth, s => do
    let (j, s) ← scanValue steps depth s
    match skipSpace s with
    | ',' :: r =>
      let (items, rest) ← scanItems steps depth (skipSpace r)
      return (j :: items, rest)
    | ']' :: rest => return ([j], rest)
    | _ => none

/-- Reads the members of an object and the brace that closes it; one member at least. -/
def scanMembers : Nat → Nat → List Char → Option (List (Option Member) × List Char)
  | 0, _, _ => none
  | steps + 1, depth, s =>
    match s with
    | '"' :: r => do
      let (name, r) ← scanString r
      match skipSpace r with
      | ':' :: r =>
        let (j, r) ← scanValue steps depth (skipSpace r)
        match skipSpace r with
        | ',' :: r =>
          let (members, rest) ← scanMembers steps depth (skipSpace r)
          return (member? name j :: members, rest)
        | '\x7d' :: rest => return ([member? name j], rest)
        | _ => none
      | _ => none
    | _ => none

end

/-- Reads a JSON text. -/
def parse? (text : String) : Option Json := do
  let s := text.toList
  let (j, rest) ← scanValue (s.length + 1) maxDepth (skipSpace s)
  if skipSpace rest = [] then some j else none

/-! ## Readability -/

mutual

/-- Every part denotes a value: nothing is unreadable, and no number is out of range. -/
def isReadable : Json → Bool
  | .unreadable => false
  | .number n => n.integer?.isSome || n.double?.isSome
  | .array items => areReadable items
  | .object members => membersAreReadable members
  | _ => true

/-- Every part of every item denotes a value. -/
def areReadable : List Json → Bool
  | [] => true
  | j :: r => j.isReadable && areReadable r

/-- Every part of every member denotes a value. -/
def membersAreReadable : List Member → Bool
  | [] => true
  | ⟨_, j⟩ :: r => j.isReadable && membersAreReadable r

end

end SolrRequest.Json

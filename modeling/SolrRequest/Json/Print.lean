import SolrRequest.Json.Value

/-!
# Writing JSON

The compact text of a JSON value has no white space. In strings only the quote, the backslash and
the control characters below U+0020 are escaped. The indented text puts every item and every
member on a line of its own.
-/

namespace SolrRequest.Json

open Number

/-- A digit of base sixteen, in lower case. -/
def hexDigit (n : Nat) : Char :=
  Nat.digitChar n

/-- A character inside a quoted text. -/
def quotedChar (c : Char) : List Char :=
  if c = '"' then ['\\', '"']
  else if c = '\\' then ['\\', '\\']
  else if c = '\x08' then ['\\', 'b']
  else if c = '\x0c' then ['\\', 'f']
  else if c = '\n' then ['\\', 'n']
  else if c = '\r' then ['\\', 'r']
  else if c = '\t' then ['\\', 't']
  else if c.toNat < 0x20 then
    ['\\', 'u', '0', '0', hexDigit (c.toNat / 16), hexDigit (c.toNat % 16)]
  else [c]

/-- A text in quotes. -/
def quoted (s : String) : List Char :=
  '"' :: s.toList.flatMap quotedChar ++ ['"']

mutual

/-- The compact text of a value. -/
def chars : Json → List Char
  | .null => ['n', 'u', 'l', 'l']
  | .bool true => ['t', 'r', 'u', 'e']
  | .bool false => ['f', 'a', 'l', 's', 'e']
  | .number n => n.text
  | .string s => quoted s
  | .array items => '[' :: itemsChars items
  | .object members => '\x7b' :: membersChars members
  | .unreadable => ['n', 'u', 'l', 'l']

/-- The items of an array and the bracket that closes it. -/
def itemsChars : List Json → List Char
  | [] => [']']
  | [j] => j.chars ++ [']']
  | j :: r => j.chars ++ ',' :: itemsChars r

/-- The members of an object and the brace that closes it. -/
def membersChars : List Member → List Char
  | [] => ['\x7d']
  | [⟨name, j⟩] => quoted name ++ ':' :: j.chars ++ ['\x7d']
  | ⟨name, j⟩ :: r => quoted name ++ ':' :: j.chars ++ ',' :: membersChars r

end

/-- The compact text of a value. -/
def text (j : Json) : String :=
  String.ofList j.chars

/-- The compact text of a value, if nothing in it lacks a written form. -/
def text? (j : Json) : Option String :=
  if j.isWhole then some j.text else none

/-! ## The indented form -/

/-- A line break followed by spaces. -/
def lineBreak (indent : Nat) : List Char :=
  '\n' :: List.replicate indent ' '

mutual

/-- The indented text of a value that stands at a given indentation. -/
def indentedChars (indent : Nat) : Json → List Char
  | .array [] => ['[', ']']
  | .array items => '[' :: indentedItems indent items
  | .object [] => ['\x7b', '\x7d']
  | .object members => '\x7b' :: indentedMembers indent members
  | j => j.chars

/-- The items of an array, each on its line, and the bracket that closes it. -/
def indentedItems (indent : Nat) : List Json → List Char
  | [] => lineBreak indent ++ [']']
  | [j] => lineBreak (indent + 2) ++ indentedChars (indent + 2) j ++ lineBreak indent ++ [']']
  | j :: r =>
    lineBreak (indent + 2) ++ indentedChars (indent + 2) j ++ ',' :: indentedItems indent r

/-- The members of an object, each on its line, and the brace that closes it. -/
def indentedMembers (indent : Nat) : List Member → List Char
  | [] => lineBreak indent ++ ['\x7d']
  | [⟨name, j⟩] =>
    lineBreak (indent + 2) ++ quoted name ++ ':' :: ' ' :: indentedChars (indent + 2) j ++
      lineBreak indent ++ ['\x7d']
  | ⟨name, j⟩ :: r =>
    lineBreak (indent + 2) ++ quoted name ++ ':' :: ' ' :: indentedChars (indent + 2) j ++
      ',' :: indentedMembers indent r

end

/-- The indented text of a value, its members in the order in which they stand. -/
def indentedText (j : Json) : String :=
  String.ofList (j.indentedChars 0)

example : (Json.object [⟨"a", .array [.null, .ofInt (-3)]⟩]).text = "\x7b\"a\":[null,-3]\x7d" := by
  decide

end SolrRequest.Json

import SolrRequest.Text.Whitespace

/-!
# Escaping for the standard query parser

A reserved character, or one of white space, is escaped by a backslash in front of it. Two forms
are written: the *full* form escapes every such character; the *literal* form, used for values in
criteria, leaves the wildcard `*` alone and encloses a value that holds a space in double quotes.

* `escapeAll` is the full form, `literal` the literal form.
* `unescape` drops one backslash from each pair, and undoes either form
  (`unescape_escapeWhere`).
-/

namespace SolrRequest.Text

/-- The characters with a meaning in query syntax. -/
def reserved : List Char :=
  ['\\', '+', '-', '!', '(', ')', ':', '^', '[', ']', '"', '\x7b', '\x7d', '~', '*', '?', '|',
    '&', ';', '/']

/-- A character that a query text cannot hold bare. -/
def needsEscape (c : Char) : Bool :=
  reserved.contains c || isSpace c

/-- Puts a backslash in front of every character that `special` selects. -/
def escapeWhere (special : Char → Bool) (s : List Char) : List Char :=
  s.flatMap fun c => if special c then ['\\', c] else [c]

/-- The character escaped in a criteria literal: all but the wildcard. -/
def needsLiteralEscape (c : Char) : Bool :=
  c != '*' && needsEscape c

/-- The full form: every reserved character and all white space escaped. -/
def escapeAll (s : String) : String :=
  String.ofList (escapeWhere needsEscape s.toList)

/-- Encloses a text in double quotes when it holds a space. -/
def quoteSpaced (s : List Char) : List Char :=
  if s.contains ' ' then '"' :: s ++ ['"'] else s

/-- The literal form: wildcards are kept, and a value with a space is quoted. -/
def literal (s : String) : String :=
  String.ofList (quoteSpaced (escapeWhere needsLiteralEscape s.toList))

/-- Drops the backslash of each pair; a backslash at the end stands for itself. -/
def unescape : List Char → List Char
  | [] => []
  | '\\' :: c :: r => c :: unescape r
  | c :: r => c :: unescape r

/-! ## Laws -/

theorem escapeWhere_cons (special : Char → Bool) (c : Char) (r : List Char) :
    escapeWhere special (c :: r) =
      (if special c then ['\\', c] else [c]) ++ escapeWhere special r := rfl

/-- Undoing an escape gives the text back, whenever backslashes are among the escaped. -/
theorem unescape_escapeWhere {special : Char → Bool} (hb : special '\\' = true) (s : List Char) :
    unescape (escapeWhere special s) = s := by
  induction s with
  | nil => rfl
  | cons c r ih =>
    rw [escapeWhere_cons]
    by_cases h : special c = true
    · simp [h, unescape, ih]
    · have hc : c ≠ '\\' := by
        intro e
        subst e
        exact h hb
      simp [h, unescape, hc, ih]

example : escapeAll "ru*t" = "ru\\*t" ∧ literal "a b:c" = "\"a\\ b\\:c\"" := by decide

end SolrRequest.Text

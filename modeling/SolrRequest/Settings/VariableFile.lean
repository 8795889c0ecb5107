import SolrRequest.Text.Alphanumeric
import SolrRequest.Text.Whitespace

/-!
# Files of variables

A file of variables has lines `NAME=value`, with comments, quotes, escapes and the values of other
variables. `Variables.load` adds its variables to those that are set; it never changes one that is
set, and stops at the first line that has no meaning.

A quoted value may go on over line breaks. Between double quotes a backslash escapes a character
and a dollar sign stands before the name of a variable; between single quotes every character
stands for itself.
-/

namespace SolrRequest

open Text

/-- The variables that are set, with their values. -/
abbrev Variables := List (String × String)

namespace Variables

/-! ## Lines -/

/-- Where a line stands between its characters. -/
inductive LineState where
  | plain
  | gap
  | escape
  | single
  | singleEscape
  | double
  | doubleEscape
deriving Repr, DecidableEq

namespace LineState

/-- What a character outside of quotes leads to. -/
def start (c : Char) : LineState :=
  if c = '\\' then escape
  else if c = '"' then double
  else if c = '\'' then single
  else plain

/-- The state after a character. -/
def next (c : Char) : LineState → LineState
  | plain => if isSpace c && c != '\n' && c != '\r' then gap else start c
  | gap => start c
  | escape => plain
  | single => if c = '\\' then singleEscape else if c = '\'' then plain else single
  | singleEscape => single
  | double => if c = '\\' then doubleEscape else if c = '"' then plain else double
  | doubleEscape => double

end LineState

/-- Goes through a line: what stands before a comment, and the state at the end if there is no
comment. -/
def scanLine (state : LineState) : List Char → List Char × Option LineState
  | [] => ([], some state)
  | c :: r =>
    if state = .gap ∧ c = '#' then ([], none)
    else
      let (kept, final) := scanLine (state.next c) r
      (c :: kept, final)

/-- Splits a text into lines, each with its line break. -/
def splitLines : List Char → List (List Char)
  | [] => []
  | '\n' :: r => ['\n'] :: splitLines r
  | c :: r =>
    match splitLines r with
    | [] => [[c]]
    | line :: lines => (c :: line) :: lines

def withoutBreak (line : List Char) : List Char :=
  match line.reverse with
  | '\n' :: '\r' :: r => r.reverse
  | '\n' :: r => r.reverse
  | _ => line

/-- Joins lines as long as a quote or an escape is open, or a gap is at the end; the last one is
nothing when the text ends there. -/
def joinLines (before : List Char) (state : LineState) :
    List (List Char) → List (Option (List Char))
  | [] => if state = .plain then [] else [none]
  | line :: r =>
    let whole := before ++ line
    if (trimStart whole).head? = some '#' then some [] :: joinLines [] .plain r
    else
      match scanLine state line with
      | (kept, none) => some (before ++ kept) :: joinLines [] .plain r
      | (_, some .plain) => some (withoutBreak whole) :: joinLines [] .plain r
      | (_, some state) => joinLines whole state r

/-! ## Values -/

/-- Where a value stands between its characters; the flag tells whether double quotes are open. -/
inductive ValueState where
  | bare (quoted : Bool)
  | single
  | escape (quoted : Bool)
  | variable (quoted : Bool) (name : List Char)
  | braced (quoted : Bool) (name : List Char)
  | ended

/-- The value of a variable, empty when it is not set. -/
def valueOf (vars : Variables) (name : List Char) : List Char :=
  ((vars.lookup (String.ofList name)).getD "").toList

/-- The character that an escaped one stands for. -/
def escaped? (c : Char) : Option Char :=
  if c = 'n' then some '\n'
  else if c = '\\' ∨ c = '\'' ∨ c = '"' ∨ c = '$' ∨ c = ' ' then some c
  else none

/-- Reads a value, given what stands before the rest of its text. -/
def readValue (vars : Variables) : ValueState → List Char → Option (List Char)
  | .bare quoted, [] => if quoted then none else some []
  | .escape quoted, [] => if quoted then none else some []
  | .variable quoted name, [] => if quoted then none else some (valueOf vars name)
  | .ended, [] => some []
  | .single, [] => none
  | .braced _ _, [] => none
  | .ended, c :: r =>
    if c = ' ' ∨ c = '\t' then readValue vars .ended r
    else if c = '#' then some []
    else none
  | .escape quoted, c :: r => do
    let c ← escaped? c
    return c :: (← readValue vars (.bare quoted) r)
  | .single, c :: r =>
    if c = '\'' then readValue vars (.bare false) r
    else (readValue vars .single r).map (c :: ·)
  | .variable quoted name, c :: r =>
    if isAlphanumeric c then readValue vars (.variable quoted (name ++ [c])) r
    else if c = '\x7b' ∧ name = [] then readValue vars (.braced quoted []) r
    else if c = '$' then
      (readValue vars (.variable quoted []) r).map (valueOf vars name ++ ·)
    else (readValue vars (.bare quoted) r).map (valueOf vars name ++ c :: ·)
  | .braced quoted name, c :: r =>
    if c = '\x7d' then
      (readValue vars (.bare quoted) r).map (valueOf vars name ++ ·)
    else readValue vars (.braced quoted (name ++ [c])) r
  | .bare quoted, c :: r =>
    if c = '$' then readValue vars (.variable quoted []) r
    else if c = '\\' then readValue vars (.escape quoted) r
    else if c = '"' then readValue vars (.bare (!quoted)) r
    else if !quoted && c == '\'' then readValue vars .single r
    else if !quoted && (c == ' ' || c == '\t') then readValue vars .ended r
    else (readValue vars (.bare quoted) r).map (c :: ·)

/-! ## Assignments -/

/-- What a line says. -/
inductive Line where
  | blank
  | assignment (name value : List Char)

/-- A character of the name of a variable that is set. -/
def isKeyChar (c : Char) : Bool :=
  c.isAlphanum || c == '_' || c == '.'

/-- Reads the name of a variable, and the white space after it. -/
def readKey (s : List Char) : Option (List Char × List Char) :=
  match s with
  | [] => none
  | c :: _ =>
    if c.isAlpha || c == '_' then
      some (s.takeWhile isKeyChar, trimStart (s.dropWhile isKeyChar))
    else none

/-- Reads an equals sign, and the white space after it. -/
def readEquals : List Char → Option (List Char)
  | '=' :: r => some (trimStart r)
  | _ => none

/-- Reads the name of a variable up to its value; the word `export` may stand in front. -/
def readTarget (s : List Char) : Option (List Char × List Char) := do
  let (name, rest) ← readKey s
  match readEquals rest with
  | some value => return (name, value)
  | none =>
    if name = "export".toList then
      let (name, rest) ← readKey rest
      return (name, ← readEquals rest)
    else none

/-- Nothing but a comment is left of a line. -/
def isOver (s : List Char) : Bool :=
  match s with
  | [] => true
  | c :: _ => c == '#'

def readLine (vars : Variables) (line : List Char) : Option Line := do
  let s := trimStart (trimEnd line)
  if isOver s then return .blank
  let (name, rest) ← readTarget s
  if isOver rest then return .assignment name []
  return .assignment name (← readValue vars (.bare false) rest)

/-- Sets a variable unless it is set. -/
def setNew (vars : Variables) (name value : String) : Variables :=
  if (vars.lookup name).isSome then vars else vars ++ [(name, value)]

/-- Sets the variables of lines up to the first one without a meaning. -/
def loadLines (vars : Variables) : List (Option (List Char)) → Variables
  | [] => vars
  | none :: _ => vars
  | some line :: r =>
    match readLine vars line with
    | none => vars
    | some .blank => loadLines vars r
    | some (.assignment name value) =>
      loadLines (setNew vars (String.ofList name) (String.ofList value)) r

/-- A text without a byte order mark at its start. -/
def dropMark : List Char → List Char
  | '\ufeff' :: r => r
  | s => s

/-- Adds the variables of a file to those that are set. -/
def load (vars : Variables) (content : String) : Variables :=
  loadLines vars (joinLines [] .plain (splitLines (dropMark content.toList)))

/-! ## Laws -/

/-- A variable that is set keeps its value. -/
theorem lookup_setNew {vars : Variables} {name value other old : String}
    (h : vars.lookup other = some old) :
    (setNew vars name value).lookup other = some old := by
  unfold setNew
  split
  · exact h
  · rw [List.lookup_append, h]
    rfl

/-- Loading a file never changes a variable that is set. -/
theorem lookup_loadLines {vars : Variables} {lines : List (Option (List Char))}
    {name value : String} (h : vars.lookup name = some value) :
    (loadLines vars lines).lookup name = some value := by
  induction lines generalizing vars with
  | nil => exact h
  | cons line r ih =>
    cases line with
    | none => exact h
    | some line =>
      unfold loadLines
      split
      · exact h
      · exact ih h
      · exact ih (lookup_setNew h)

example : load [("A", "1")] "A=2\nexport B='x' # y\nC=\"\x24\x7bB\x7d\\n$A.\"\nD\nE=3\n" =
    [("A", "1"), ("B", "x"), ("C", "x\n1.")] := by decide +kernel

end Variables

end SolrRequest

import SolrRequest.Json.Parse
import SolrRequest.Number.Scan
import SolrRequest.Text.Lowercase

/-!
# Trees of settings

Settings come from several sources, each of which adds to a tree of tables. A later source
overrides an earlier one entry by entry: a table is merged into the table that is there, and
anything else takes the place of what is there (`Setting.merge`). Keys may be paths into nested
tables and lists (`Setting.put?`). The tree has names in small letters, except for the tables in a
list, which are kept as they are.
-/

namespace SolrRequest

open Number

mutual

/-- A setting or a table of settings. -/
inductive Setting where
  | null
  | bool (b : Bool)
  | integer (i : Int64)
  | float (x : Double)
  | text (s : String)
  | list (items : List Setting)
  | table (entries : List SettingEntry)

/-- A setting under its name. -/
structure SettingEntry where
  name : String
  value : Setting

end

namespace Setting

/-- The entries of a table; anything else has none. -/
def entries : Setting → List SettingEntry
  | table entries => entries
  | _ => []

def lookup (name : String) (entries : List SettingEntry) : Option Setting :=
  (entries.find? fun e => e.name == name).map (·.value)

/-- Puts a setting under a name, in place of the one that was there. -/
def replace (name : String) (value : Setting) : List SettingEntry → List SettingEntry
  | [] => [⟨name, value⟩]
  | ⟨key, old⟩ :: r =>
    if key = name then ⟨key, value⟩ :: r else ⟨key, old⟩ :: replace name value r

mutual

/-- A setting that is put where there may be one already. -/
def merge (old : Option Setting) : Setting → Setting
  | table entries => mergeEntries (old.getD (table [])) entries
  | value => value

/-- Merges entries into a setting, which thereby becomes a table. -/
def mergeEntries (current : Setting) : List SettingEntry → Setting
  | [] => current
  | ⟨name, value⟩ :: r =>
    let name := Text.lowercase name
    mergeEntries
      (table (replace name (merge (lookup name current.entries) value) current.entries)) r

end

/-! ## Paths -/

/-- A step to a setting: into a table, or into a list. -/
inductive Step where
  | name (name : String)
  /-- The place of an item; a negative one counts from the end. -/
  | item (index : Int)
deriving Repr, DecidableEq

/-- The items of a list; anything else has none. -/
def items : Setting → List Setting
  | list items => items
  | _ => []

/-- The place of an item among a number of items; there is none before the first one. -/
def place? (index : Int) (count : Nat) : Option Nat :=
  if 0 ≤ index then some index.toNat
  else if index.natAbs ≤ count then some (count - index.natAbs)
  else none

/-- Puts a setting at a place in a list, which is filled up with nulls as far as necessary. -/
def setItem (value : Setting) (index : Nat) (items : List Setting) : List Setting :=
  (items ++ List.replicate (index + 1 - items.length) null).set index value

/-- Puts a setting at the end of a path; tables and lists on the way are made where there are none.
An item that ends the path is replaced by the setting, and anything else is merged with it. There
has to be a place in the lists on the way. -/
def put? (value : Setting) : List Step → Option Setting → Option Setting
  | [], old => some (merge old value)
  | .name name :: r, old => do
    let name := Text.lowercase name
    let entries := (old.getD null).entries
    return table (replace name (← put? value r (lookup name entries)) entries)
  | [.item index], old => do
    let items := (old.getD null).items
    return list (setItem value (← place? index items.length) items)
  | .item index :: r, old => do
    let items := (old.getD null).items
    let place ← place? index items.length
    return list (setItem (← put? value r items[place]?) place items)

/-! ## Keys -/

/-- A character of a name in a path. -/
def isPathChar (c : Char) : Bool :=
  c.isAlphanum || c == '_' || c == '-' || c == ' '

/-- A blank beside a number in a path. -/
def isPathBlank (c : Char) : Bool :=
  c == ' ' || c == '\t'

/-- An integer that fits 64 bits with a sign. -/
def fitsInt64 (i : Int) : Bool :=
  Int64.minValue.toInt ≤ i && i ≤ Int64.maxValue.toInt

/-- The number between the brackets of a path: digits, with a minus sign or without, and blanks
around them. -/
def indexOf? (s : List Char) : Option Int :=
  let s := ((s.dropWhile isPathBlank).reverse.dropWhile isPathBlank).reverse
  let (sign, digits) : Int × List Char := match s with
    | '-' :: r => (-1, r)
    | _ => (1, s)
  if digits ≠ [] ∧ digits.all Char.isDigit then
    some (sign * digitsValue digits) |>.filter fitsInt64
  else none

/-- Where a path stands between its characters. -/
inductive PathState where
  /-- In a name. -/
  | name (read : List Char)
  /-- Between brackets. -/
  | item (read : List Char)
  /-- After brackets. -/
  | gap

/-- What a character after a name or brackets leads to. -/
def PathState.after? (c : Char) : Option PathState :=
  if c = '.' then some (name [])
  else if c = '[' then some (item [])
  else none

/-- Reads the steps of a path, given where it stands. -/
def readSteps : PathState → List Char → Option (List Step)
  | .name read, [] => if read = [] then none else some [.name (String.ofList read)]
  | .name read, c :: r =>
    if isPathChar c then readSteps (.name (read ++ [c])) r
    else if read = [] then none
    else do
      let state ← PathState.after? c
      return .name (String.ofList read) :: (← readSteps state r)
  | .item _, [] => none
  | .item read, c :: r =>
    if c = ']' then do
      let index ← indexOf? read
      return .item index :: (← readSteps .gap r)
    else readSteps (.item (read ++ [c])) r
  | .gap, [] => some []
  | .gap, c :: r => do readSteps (← PathState.after? c) r

/-- The path that a key stands for: a name, and names after points and numbers in brackets. A key of
another form is one name as it is. -/
def keyPath (key : String) : List Step :=
  (readSteps (.name []) key.toList).getD [.name key]

def putKey? (root : Setting) (key : String) (value : Setting) : Option Setting :=
  put? value (keyPath key) (some root)

example : keyPath "a.b[ -1 ][0].c d" =
    [.name "a", .name "b", .item (-1), .item 0, .name "c d"] := by decide +kernel

example : keyPath "a[x]" = [.name "a[x]"] := by decide +kernel

/-! ## Settings in JSON -/

/-- The setting of a number; only integers of 64 bits with a sign are kept as such. -/
def ofNumeral (n : Numeral) : Setting :=
  match n.integer? with
  | some i => if fitsInt64 i then integer (.ofInt i) else float (Floating.ofInt i)
  | none => ((n.double?).map float).getD null

mutual

/-- The setting of a JSON value. -/
def ofJson : Json → Setting
  | .null => null
  | .bool b => bool b
  | .number n => ofNumeral n
  | .string s => text s
  | .array items => list (ofItems items)
  | .object members => table (ofMembers [] members)
  | .unreadable => null

/-- The settings of the items of an array. -/
def ofItems : List Json → List Setting
  | [] => []
  | j :: r => ofJson j :: ofItems r

/-- Adds the settings of the members of an object to entries; of repeated names the last one
counts. -/
def ofMembers (entries : List SettingEntry) : List Member → List SettingEntry
  | [] => entries
  | ⟨name, j⟩ :: r => ofMembers (replace name (ofJson j) entries) r

end

/-- The byte order mark, with which a file may start. -/
def byteOrderMark : Char := '\ufeff'

/-- The text of a file without its byte order mark. -/
def withoutMark (content : String) : String :=
  match content.toList with
  | c :: r => if c = byteOrderMark then String.ofList r else content
  | [] => content

/-- The top-level entries of the settings in a file. -/
def ofFile? (content : String) : Option (List SettingEntry) := do
  let j ← Json.parse? (withoutMark content)
  if !j.isReadable then none
  else
    match ofJson j with
    | table entries => some entries
    | _ => none

/-- Puts the top-level entries of a source into a tree; their names are keys. -/
def putAll? (root : Setting) (entries : List SettingEntry) : Option Setting :=
  entries.foldlM (fun root e => putKey? root e.name e.value) root

/-! ## Settings in variables -/

/-- What the names of variables with settings start with, in small letters. -/
def variablePrefix : List Char := "solrq__".toList

/-- A text with points in place of double underscores. -/
def pointed : List Char → List Char
  | '_' :: '_' :: r => '.' :: pointed r
  | c :: r => c :: pointed r
  | [] => []

/-- The key of the setting that a variable holds. -/
def variableKey? (name : String) : Option String :=
  let name := (Text.lowercase name).toList
  if variablePrefix.isPrefixOf name then
    some (String.ofList (pointed (name.drop variablePrefix.length)))
  else none

/-- The integer of a text, if it fits 64 bits with a sign. -/
def int64Of? (s : String) : Option Int64 :=
  ((integerOf? s.toList).filter fitsInt64).map Int64.ofInt

/-- The setting of the value of a variable: a truth value, an integer, a number, or a text. -/
def ofText (s : String) : Setting :=
  match Text.lowercase s with
  | "true" => bool true
  | "false" => bool false
  | _ =>
    match int64Of? s, doubleOf? s.toList with
    | some i, _ => integer i
    | none, some x => float x
    | none, none => text s

/-- The settings that variables hold, under their keys. -/
def ofVariables (vars : List (String × String)) : List SettingEntry :=
  vars.filterMap fun v => (variableKey? v.1).map fun key => ⟨key, ofText v.2⟩

end Setting

end SolrRequest

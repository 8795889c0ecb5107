import SolrRequest.Compiler
import SolrRequest.Document.Scalars
import SolrRequest.Settings.Tree
import SolrRequest.Settings.VariableFile

/-!
# Settings

The settings of the program are read from a tree. Reading is lenient: truth values, numbers and
texts stand for each other where they can, and names from a fixed choice may have any capitals. A
record is a table, whose other entries are ignored, or a list of its members in order.

`Settings.load` puts together the tree: a file, overridden by variables.
-/

namespace SolrRequest

open Number

namespace Setting

/-! ## Lenient readers -/

def yesWords : List String := ["true", "on", "yes"]

def noWords : List String := ["false", "off", "no"]

/-- The nearest natural number of 64 bits, a half going up; zero for what is not a number. -/
def roundedNat (x : Double) : Nat :=
  if x.isNaN || x.negative then 0
  else if x.isInfinite then UInt64.size - 1
  else min ((2 * x.units + BinaryFormat.binary64.unitsPerOne) /
    (2 * BinaryFormat.binary64.unitsPerOne)) (UInt64.size - 1)

/-- The natural number of 64 bits that a setting stands for. -/
def nat? : Setting → Option Nat
  | bool b => some (if b then 1 else 0)
  | integer i => if 0 ≤ i.toInt then some i.toInt.toNat else none
  | float x => some (roundedNat x)
  | text s =>
    let word := Text.lowercase s
    if yesWords.contains word then some 1
    else if noWords.contains word then some 0
    else (naturalOf? s.toList).filter (· < UInt64.size)
  | _ => none

/-- A natural number of 32 bits. -/
def uint32? (s : Setting) : Option UInt32 :=
  (s.nat?.filter (· < UInt32.size)).map UInt32.ofNat

/-- A natural number of eight bits. -/
def uint8? (s : Setting) : Option UInt8 :=
  (s.nat?.filter (· < UInt8.size)).map UInt8.ofNat

/-- The truth value that a setting stands for. -/
def bool? : Setting → Option Bool
  | bool b => some b
  | integer i => some (i != 0)
  | float x => some (!x.isZero)
  | text s =>
    let word := Text.lowercase s
    if word = "1" ∨ yesWords.contains word then some true
    else if word = "0" ∨ noWords.contains word then some false
    else none
  | _ => none

/-- The text of a number, without an exponent and without superfluous places. -/
def plainText (x : Double) : String :=
  if x.isNaN then "NaN"
  else if x.isInfinite then (if x.negative then "-inf" else "inf")
  else String.ofList x.plainNumeral.text

/-- The text that a setting stands for. -/
def text? : Setting → Option String
  | text s => some s
  | bool b => some (if b then "true" else "false")
  | integer i => some (String.ofList (intText i.toInt))
  | float x => some (plainText x)
  | _ => none

/-- One of a fixed choice of names: a text, or a table with that name only. -/
def choice? {α : Type} (names : List (String × α)) : Setting → Option α
  | text s => find s
  | table [⟨name, _⟩] => find name
  | _ => none
where
  find (name : String) : Option α :=
    names.findSome? fun e => if e.1 == Text.lowercase name then some e.2 else none

/-- Reads null as nothing. -/
def optional? {α : Type} (read : Setting → Option α) : Setting → Option (Option α)
  | null => some none
  | s => (read s).map some

/-- The members of a record with the known names. -/
def members? (known : List String) : Setting → Option (List (String × Setting))
  | table entries => some (entries.map fun e => (e.name, e.value))
  | list items => some (known.zip items)
  | _ => none

def withDefault {α : Type} (members : List (String × Setting)) (name : String) (default : α)
    (read : Setting → Option α) : Option α :=
  match members.lookup name with
  | none => some default
  | some s => read s

/-- Reads every entry of a table. -/
def table? {α : Type} (read : Setting → Option α) : Setting → Option (Table α)
  | table entries => entries.mapM fun e => (read e.value).map (e.name, ·)
  | _ => none

/-- The settings of a compiler. -/
def configuration? (s : Setting) : Option Configuration := do
  let m ← s.members? Configuration.members
  let defaultRows ← withDefault m "default_rows" none (optional? uint32?)
  let defaultOperator ←
    withDefault m "default_operator" none (optional? (choice? Operator.names))
  let fractionDigits ← withDefault m "date_fraction_digits" 3 uint8?
  let strictFunctions ← withDefault m "strict_functions" false bool?
  let fields ← withDefault m "fields" [] (table? (table? text?))
  return ⟨defaultRows, defaultOperator, fractionDigits, strictFunctions, ⟨fields⟩⟩

end Setting

/-! ## The settings of the program -/

/-- How the program reports what it does. -/
structure Logging where
  level : String
  json : Bool
deriving Repr, DecidableEq

/-- The settings of the program. -/
structure Settings where
  logging : Logging
  compiler : Configuration
deriving Repr, DecidableEq

/-- Why there are no settings. -/
inductive SettingsError where
  /-- A source of settings is missing or has no meaning. -/
  | unreadable
  /-- A key leads to a place before the first item of a list. -/
  | misplaced
  /-- A setting has a wrong type. -/
  | mistyped
  /-- The settings of the compiler are refused. -/
  | invalid (cause : Error)
deriving Repr, DecidableEq

namespace Logging

def default : Logging where
  level := "warn"
  json := false

def ofSetting? (s : Setting) : Option Logging := do
  let m ← s.members? ["level", "json"]
  let level ← Setting.withDefault m "level" default.level Setting.text?
  let json ← Setting.withDefault m "json" default.json Setting.bool?
  return ⟨level, json⟩

end Logging

namespace Settings

def ofSetting? (s : Setting) : Option Settings := do
  let m ← s.members? ["logging", "compiler"]
  let logging ← Setting.withDefault m "logging" Logging.default Logging.ofSetting?
  let compiler ← Setting.withDefault m "compiler" Configuration.default Setting.configuration?
  return ⟨logging, compiler⟩

/-- The tree of settings of a file, overridden by variables. -/
def tree? (file : List SettingEntry) (vars : Variables) : Option Setting := do
  Setting.putAll? (← Setting.putAll? (.table []) file) (Setting.ofVariables vars)

/-- The settings of the text of a file, or of none, and of variables. -/
def load (file : Option String) (vars : Variables) : Except SettingsError Settings := do
  let entries ← match file with
    | none => pure []
    | some content =>
      match Setting.ofFile? content with
      | some entries => pure entries
      | none => throw .unreadable
  match tree? entries vars with
  | none => throw .misplaced
  | some tree =>
    match ofSetting? tree with
    | none => throw .mistyped
    | some settings =>
      match settings.compiler.check with
      | .error e => throw (.invalid e)
      | .ok _ => return settings

example : (load (some "\x7b\"compiler\": \x7b\"default_rows\": \"7\"\x7d\x7d")
    [("SOLRQ__COMPILER__DATE_FRACTION_DIGITS", "6")]).toOption.map (·.compiler) =
      some { Configuration.default with defaultRows := some 7, fractionDigits := 6 } := by
  decide +kernel

end Settings

end SolrRequest

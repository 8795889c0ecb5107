/-!
# Arguments of the command line

The arguments name a command, `compile` or `escape`, with its options and its operand. Options have
a long name, and most a letter; several letters may follow one dash. The value of an option is the
next argument, unless it looks like an option, or follows the name after an equals sign, or the
letter at once. After `--` everything is an operand.

`Invocation.ofArgs` reads the arguments from left to right and stops at the first thing that is
wrong, or at a wish for help or for the version.
-/

namespace SolrRequest

/-- How a request is written. -/
inductive OutputFormat where
  | params
  | url
  | json
deriving Repr, DecidableEq

namespace OutputFormat

def names : List (String × OutputFormat) :=
  [("params", params), ("url", url), ("json", json)]

end OutputFormat

/-- What the program is to do. -/
inductive Command where
  /-- Compiles the query document in a file, or in the standard input. -/
  | compile (input : Option String) (domain : Option String) (format : OutputFormat)
  /-- Escapes a text, as a literal or all of it. -/
  | escape (value : String) (all : Bool)
deriving Repr, DecidableEq

/-- A command with the file of settings to use. -/
structure Invocation where
  settings : Option String
  command : Command
deriving Repr, DecidableEq

/-- The pages of help. -/
inductive HelpPage where
  | program
  | compile (long : Bool)
  | escape
  | help
deriving Repr, DecidableEq

/-- What the arguments ask for. -/
inductive Wish where
  | run (invocation : Invocation)
  | help (page : HelpPage)
  | version
deriving Repr, DecidableEq

/-- What is wrong with the arguments. -/
inductive UsageError where
  | nothing
  | noCommand
  | unknownCommand (name : String)
  | unknownOption (name : String)
  | missingValue (name : String)
  | needlessValue (name : String)
  | repeated (name : String)
  | unknownFormat (name : String)
  | unexpected (operand : String)
  | missingOperand
deriving Repr, DecidableEq

namespace UsageError

def message : UsageError → String
  | nothing => "no command is given"
  | noCommand => "a command is required"
  | unknownCommand name => "unrecognized command '" ++ name ++ "'"
  | unknownOption name => "unexpected option '" ++ name ++ "'"
  | missingValue name => "a value is required for '" ++ name ++ "'"
  | needlessValue name => "'" ++ name ++ "' takes no value"
  | repeated name => "'" ++ name ++ "' cannot be used multiple times"
  | unknownFormat name => "invalid format '" ++ name ++ "'"
  | unexpected operand => "unexpected argument '" ++ operand ++ "'"
  | missingOperand => "a value to escape is required"

end UsageError

/-! ## Words -/

/-- The form of an argument. -/
inductive Word where
  /-- The mark after which there are only operands. -/
  | dashes
  | long (name : String) (value : Option String)
  | letters (letters : List Char)
  | plain (text : String)
deriving Repr, DecidableEq

namespace Word

/-- Splits a long option at its equals sign. -/
def ofLong (s : List Char) : Word :=
  let name := String.ofList (s.takeWhile (· != '='))
  match s.dropWhile (· != '=') with
  | [] => long name none
  | _ :: value => long name (some (String.ofList value))

/-- The form of an argument; a single dash is an operand. -/
def ofArg (arg : String) : Word :=
  match arg.toList with
  | ['-', '-'] => dashes
  | '-' :: '-' :: r => ofLong r
  | '-' :: c :: r => letters (c :: r)
  | _ => plain arg

end Word

/-! ## Options -/

/-- The options of all commands. -/
inductive Switch where
  | config
  | domain
  | format
  | all
  | help
  | version
deriving Repr, DecidableEq

namespace Switch

def name : Switch → String
  | config => "config"
  | domain => "domain"
  | format => "format"
  | all => "all"
  | help => "help"
  | version => "version"

def letter? : Switch → Option Char
  | config => some 'c'
  | domain => some 'd'
  | format => some 'f'
  | all => none
  | help => some 'h'
  | version => some 'V'

def takesValue : Switch → Bool
  | config | domain | format => true
  | all | help | version => false

end Switch

/-- Where the arguments are read: before the command, or after it. -/
inductive Level where
  | program
  | compile
  | escape
deriving Repr, DecidableEq

namespace Level

/-- The options at a level. -/
def switches : Level → List Switch
  | program => [.config, .help, .version]
  | compile => [.config, .domain, .format, .help]
  | escape => [.config, .all, .help]

/-- The page of help at a level; its long form is asked for by the long option. -/
def page (long : Bool) : Level → HelpPage
  | program => .program
  | compile => .compile long
  | escape => .escape

end Level

/-- What has been given at a level. -/
structure Given where
  config : Option String
  domain : Option String
  format : Option OutputFormat
  all : Bool
  operand : Option String
deriving Repr, DecidableEq

namespace Given

def nothing : Given := ⟨none, none, none, false, none⟩

/-- An option with its value, which may be given once. A file needs a name. -/
def setValue (g : Given) (switch : Switch) (value : String) : Except UsageError Given :=
  match switch with
  | .config =>
    if g.config.isSome then throw (.repeated switch.name)
    else if value.isEmpty then throw (.missingValue switch.name)
    else return { g with config := some value }
  | .domain =>
    if g.domain.isSome then throw (.repeated switch.name)
    else return { g with domain := some value }
  | .format =>
    if g.format.isSome then throw (.repeated switch.name)
    else
      match OutputFormat.names.lookup value with
      | some format => return { g with format := some format }
      | none => throw (.unknownFormat value)
  | _ => throw (.needlessValue switch.name)

/-- The option of `escape` that takes no value. -/
def setAll (g : Given) : Except UsageError Given :=
  if g.all then throw (.repeated Switch.all.name) else return { g with all := true }

/-- An operand; there is one at most. The document to compile needs a name. -/
def setOperand (g : Given) (level : Level) (text : String) : Except UsageError Given :=
  if g.operand.isSome then throw (.unexpected text)
  else if level = .compile ∧ text.isEmpty then throw (.missingValue "input")
  else return { g with operand := some text }

end Given

/-- What an argument leads to. -/
inductive Progress where
  /-- Reading goes on. -/
  | more (given : Given)
  /-- The next argument is the value of an option. -/
  | value (given : Given) (switch : Switch)
  | wish (w : Wish)

namespace Level

/-- An option without a value. -/
def flag (level : Level) (long : Bool) (given : Given) : Switch → Except UsageError Progress
  | .help => return .wish (.help (level.page long))
  | .version => return .wish .version
  | .all => do return .more (← given.setAll)
  | switch => throw (.missingValue switch.name)

def long (level : Level) (given : Given) (name : String) (value : Option String) :
    Except UsageError Progress :=
  match level.switches.find? (·.name == name), value with
  | none, _ => throw (.unknownOption name)
  | some switch, some value => do
    if switch.takesValue then return .more (← given.setValue switch value)
    else throw (.needlessValue name)
  | some switch, none =>
    if switch.takesValue then return .value given switch else level.flag true given switch

/-- The letters after one dash; what follows the letter of an option with a value is the value. -/
def letters (level : Level) (given : Given) : List Char → Except UsageError Progress
  | [] => return .more given
  | c :: r =>
    match level.switches.find? (·.letter? == some c) with
    | none => throw (.unknownOption (String.singleton c))
    | some switch =>
      if switch.takesValue then
        match r with
        | [] => return .value given switch
        | '=' :: value => do return .more (← given.setValue switch (String.ofList value))
        | value => do return .more (← given.setValue switch (String.ofList value))
      else do
        match ← level.flag false given switch with
        | .more given => letters level given r
        | progress => return progress

/-- An argument that is or holds options. -/
def option (level : Level) (given : Given) : Word → Except UsageError Progress
  | .long name value => level.long given name value
  | .letters letters => level.letters given letters
  | .dashes => return .more given
  | .plain text => do return .more (← given.setOperand level text)

/-- What is left for a level when its arguments end or a command comes. -/
inductive Ending where
  | finished (given : Given)
  | command (given : Given) (name : String) (rest : List String)
  | wish (w : Wish)

/-- Reads operands only. -/
def operands (level : Level) (given : Given) : List String → Except UsageError Given
  | [] => return given
  | text :: r =>
    if level = .program then throw (.unexpected text)
    else do operands level (← given.setOperand level text) r

/-- Reads the arguments of a level. Before the command, a word is the name of the command. -/
def read (level : Level) (given : Given) : List String → Except UsageError Ending
  | [] => return .finished given
  | arg :: r =>
    match Word.ofArg arg with
    | .dashes => do return .finished (← level.operands given r)
    | .plain text =>
      if level = .program then return .command given text r
      else do read level (← given.setOperand level text) r
    | word => do
      match ← level.option given word with
      | .more given => read level given r
      | .wish w => return .wish w
      | .value given switch =>
        match r with
        | [] => throw (.missingValue switch.name)
        | next :: rest =>
          match Word.ofArg next with
          | .plain text => do read level (← given.setValue switch text) rest
          | _ => throw (.missingValue switch.name)

end Level

namespace Invocation

/-- The commands with their pages of help. -/
def helpPages : List (String × HelpPage) :=
  [("compile", .compile true), ("escape", .escape), ("help", .help)]

/-- The page of help that the names after the command `help` lead to. -/
def helpPage : List String → Except UsageError HelpPage
  | [] => return .program
  | name :: r =>
    match helpPages.lookup name, r with
    | some page, [] => return page
    | some _, next :: _ => throw (.unknownCommand next)
    | none, _ => throw (.unknownCommand name)

def ofCompile (settings : Option String) (given : Given) : Invocation :=
  ⟨given.config.or settings,
    .compile given.operand given.domain (given.format.getD .params)⟩

def ofEscape (settings : Option String) (given : Given) : Except UsageError Invocation :=
  match given.operand with
  | none => throw .missingOperand
  | some value => return ⟨given.config.or settings, .escape value given.all⟩

/-- Reads the arguments of a command. -/
def ofCommand (settings : Option String) (name : String) (args : List String) :
    Except UsageError Wish :=
  match name with
  | "compile" => do
    match ← Level.compile.read .nothing args with
    | .wish w => return w
    | .finished given => return .run (ofCompile settings given)
    | .command _ name _ => throw (.unexpected name)
  | "escape" => do
    match ← Level.escape.read .nothing args with
    | .wish w => return w
    | .finished given => return .run (← ofEscape settings given)
    | .command _ name _ => throw (.unexpected name)
  | "help" => do return .help (← helpPage args)
  | _ => throw (.unknownCommand name)

/-- What the arguments of the program ask for. -/
def ofArgs (args : List String) : Except UsageError Wish :=
  if args.isEmpty then throw .nothing
  else do
    match ← Level.program.read .nothing args with
    | .wish w => return w
    | .finished _ => throw .noCommand
    | .command given name rest => ofCommand given.config name rest

example : (ofArgs ["-cs.json", "compile", "-f=url", "--domain", "", "-"]).toOption =
    some (.run ⟨some "s.json", .compile (some "-") (some "") .url⟩) := by decide +kernel

example : (ofArgs ["escape", "--", "-x", "--all"]).toOption = none := by decide +kernel

end Invocation

end SolrRequest

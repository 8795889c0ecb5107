import SolrRequest.CommandLine.Help
import SolrRequest.Document.Tree
import SolrRequest.Request.Compile
import SolrRequest.Settings.Load

/-!
# Running a command

`run` answers a command line. What surrounds the program is a `Host`, which reads files and the
standard input in any monad, and the variables that are set. The settings are read, and refused,
before the command is looked at.
-/

namespace SolrRequest

open Text

/-- Why a command fails. -/
inductive Failure where
  | settings (cause : SettingsError)
  | unreadableInput
  | unreadableFile (path : String)
  | invalidDocument
  | refused (cause : Error)
deriving Repr, DecidableEq

namespace Failure

/-- What went wrong. -/
def headline : Failure → String
  | settings .unreadable => "Failed to read configuration"
  | settings .misplaced => "No such place in the configuration"
  | settings .mistyped => "Failed to parse configuration"
  | settings (.invalid cause) => "Invalid configuration: " ++ cause.message
  | unreadableInput => "Failed to read query from stdin"
  | unreadableFile path => "Failed to read " ++ path
  | invalidDocument => "Invalid query document"
  | refused _ => "Failed to compile query"

/-- The exit status: a setting that has no place breaks the program off. -/
def status : Failure → Nat
  | settings .misplaced => 101
  | _ => 1

/-- The error behind the failure, where the headline does not tell it. -/
def cause? : Failure → Option Error
  | refused cause => some cause
  | _ => none

/-- A message whose lines are all indented. -/
def indented (message : String) : String :=
  String.ofList (' ' :: ' ' :: ' ' :: ' ' :: message.toList.flatMap fun c =>
    if c = '\n' then ['\n', ' ', ' ', ' ', ' '] else [c])

/-- The whole report. -/
def report (f : Failure) : String :=
  "Error: " ++ f.headline ++
    match f.cause? with
    | some cause => "\n\nCaused by:\n" ++ indented cause.message
    | none => ""

end Failure

/-- How a command ends. -/
inductive Outcome where
  | done (output : String)
  | failed (failure : Failure)
  | misused (error : UsageError)
deriving Repr, DecidableEq

namespace Outcome

/-- The exit status. -/
def status : Outcome → Nat
  | done _ => 0
  | failed failure => failure.status
  | misused _ => 2

/-- What goes to the standard output. -/
def output : Outcome → String
  | done output => output
  | _ => ""

/-- What goes to the standard error output. -/
def complaint : Outcome → String
  | done _ => ""
  | failed failure => failure.report ++ "\n"
  | misused error => "error: " ++ error.message ++ "\n"

end Outcome

/-- What surrounds the program. -/
structure Host (m : Type → Type) where
  /-- The content of a file, if there is one that can be read. -/
  read : String → m (Option String)
  /-- The whole standard input, if it can be read. -/
  input : m (Option String)

/-! ## Commands -/

/-- Compiles a query document for a domain and writes the request. -/
def compileDocument (settings : Settings) (domain : Option String) (format : OutputFormat)
    (document : String) : Except Failure String := do
  match Query.ofText? document with
  | none => throw .invalidDocument
  | some query => do
    let request ← (Compiler.ofConfiguration settings.compiler).mapError
      fun e => Failure.settings (.invalid e)
    let request ← (request.compile query domain).mapError .refused
    return match format with
      | .params => request.params.lines
      | .url => request.params.url ++ "\n"
      | .json => request.params.toSortedJson.indentedText ++ "\n"

/-- Escapes a text. -/
def escapeText (value : String) (all : Bool) : String :=
  (if all then escapeAll value else literal value) ++ "\n"

/-! ## Files of settings -/

/-- The extension of a file's name: what follows its last point, unless it starts with that. -/
def extension? (path : String) : Option String :=
  let name := path.toList.reverse.takeWhile (· != '/')
  match name.dropWhile (· != '.') with
  | '.' :: _ :: _ => some (String.ofList (name.takeWhile (· != '.')).reverse)
  | _ => none

/-- The extension of files of settings. -/
def settingsExtension : String := "json"

/-- The file of settings that is used, if there is one, when none is named. -/
def defaultSettings : String := "solrq"

/-- A path in reverse, without the slashes and single points after its last name. -/
def trimPath : List Char → List Char
  | '/' :: r => trimPath r
  | '.' :: '/' :: r => trimPath r
  | s => s

/-- A path with the extension of files of settings in addition, if it ends in a name. -/
def extended? (path : String) : Option String :=
  let reversed := trimPath path.toList.reverse
  let name := reversed.takeWhile (· != '/')
  if name = [] ∨ name = ['.'] ∨ name = ['.', '.'] then none
  else some (String.ofList reversed.reverse ++ "." ++ settingsExtension)

/-- The file that a name stands for: itself, or else with the extension of files of settings. -/
def settingsFile {m : Type → Type} [Monad m] (host : Host m) (path : String) :
    m (Option String) := do
  match ← host.read path with
  | some content => return if extension? path = some settingsExtension then some content else none
  | none =>
    match extended? path with
    | some path => host.read path
    | none => return none

/-- The variables that are set, with those of the file `.env` in addition. -/
def loadVariables {m : Type → Type} [Monad m] (host : Host m) (vars : Variables) :
    m Variables := do
  match ← host.read ".env" with
  | some content => return vars.load content
  | none => return vars

/-- Loads the settings. A file that is named has to be there. -/
def loadSettings {m : Type → Type} [Monad m] (host : Host m) (vars : Variables)
    (path : Option String) : m (Except SettingsError Settings) := do
  let vars ← loadVariables host vars
  match path with
  | none => return Settings.load (← settingsFile host defaultSettings) vars
  | some path =>
    match ← settingsFile host path with
    | some content => return Settings.load (some content) vars
    | none => return .error .unreadable

/-! ## The program -/

/-- The document to compile: a file, or the standard input. -/
def readDocument {m : Type → Type} [Monad m] (host : Host m) :
    Option String → m (Except Failure String)
  | none => return ((← host.input).map .ok).getD (.error .unreadableInput)
  | some path => do
    if path = "-" then return ((← host.input).map .ok).getD (.error .unreadableInput)
    else return ((← host.read path).map .ok).getD (.error (.unreadableFile path))

/-- Carries out a command. -/
def Command.run {m : Type → Type} [Monad m] (host : Host m) (settings : Settings) :
    Command → m (Except Failure String)
  | .escape value all => return .ok (escapeText value all)
  | .compile input domain format =>
    return (← readDocument host input).bind (compileDocument settings domain format)

/-- Carries out an invocation. -/
def Invocation.run {m : Type → Type} [Monad m] (host : Host m) (vars : Variables)
    (i : Invocation) : m (Except Failure String) := do
  match ← loadSettings host vars i.settings with
  | .error e => return .error (.settings e)
  | .ok settings => i.command.run host settings

/-- Answers a command line. -/
def run {m : Type → Type} [Monad m] (host : Host m) (vars : Variables)
    (args : List String) : m Outcome := do
  match Invocation.ofArgs args with
  | .error e => return .misused e
  | .ok .version => return .done (versionText ++ "\n")
  | .ok (.help page) => return .done page.text
  | .ok (.run i) =>
    match ← i.run host vars with
    | .ok output => return .done output
    | .error failure => return .failed failure

example :
    Id.run (run ⟨fun _ => none, some "\x7b\"rows\":2\x7d"⟩ [] ["compile", "-furl"]) =
      .done "q=%2A%3A%2A&rows=2\n" := by decide +kernel

end SolrRequest

import SolrRequest.Json.Parse

/-!
# Reading the members of documents

Documents are JSON values of a few shapes, and what is read depends only on the members that the
shape knows.

* A *record* is an object, whose other members are ignored, or an array of its members in order
  (`Document.members?`). A known member may not be repeated.
* A *tagged content* is an object with a tag and a content, or an array of both
  (`Document.tagged?`).
* A *tagged record* is a record with a tag among its members, or an array that starts with the tag
  (`Document.taggedRecord?`).

What has to wait for a tag is held back: the content in front of its tag, and everything beside
the tag of a tagged record. Names are read more freely in there, since a number stands for the name
at that place of a choice, and an empty object for null.
-/

namespace SolrRequest

open Number

/-- A JSON value that is to be read, and whether it has been held back for a tag. -/
structure Document where
  value : Json
  held : Bool

/-- Reads a document of a type. -/
abbrev Reader (α : Type) := Document → Option α

/-- The members of a record that are given, under their names. -/
abbrev Members := List (String × Document)

namespace Document

/-- A whole document. -/
def ofJson (j : Json) : Document where
  value := j
  held := false

def part (d : Document) (j : Json) : Document where
  value := j
  held := d.held

/-- The members of an object with known names. -/
def knownMembers (d : Document) (known : List String) (members : List Member) : Members :=
  (members.filter fun m => known.contains m.name).map fun m => (m.name, d.part m.value)

/-- The names of some members are different from each other. -/
def distinctNames (members : Members) : Bool :=
  match members with
  | [] => true
  | (name, _) :: r => !(r.map Prod.fst).contains name && distinctNames r

/-- The members of a record with the known names. -/
def members? (d : Document) (known : List String) : Option Members :=
  match d.value with
  | .object members =>
    let kept := d.knownMembers known members
    if distinctNames kept then some kept else none
  | .array items =>
    if items.length ≤ known.length then some (known.zip (items.map d.part)) else none
  | _ => none

/-- The members of a record that has to be an object. -/
def objectMembers? (d : Document) (known : List String) : Option Members :=
  match d.value with
  | .object _ => d.members? known
  | _ => none

/-! ## Names -/

/-- A value says nothing: null, or an empty object that has been held back. -/
def isNothing (d : Document) : Bool :=
  match d.value with
  | .null => true
  | .object [] => d.held
  | _ => false

/-- A name: a text, or an object with the name and nothing. -/
def name? (d : Document) : Option String :=
  match d.value with
  | .string s => some s
  | .object [m] => if (d.part m.value).isNothing then some m.name else none
  | _ => none

/-- A name from a choice: a text, or, where it has been held back, its place in the choice. -/
def place? (names : List String) (d : Document) : Option String :=
  match d.value with
  | .string s => some s
  | .number n =>
    if d.held then
      match n.integer? with
      | some (.ofNat i) => names[i]?
      | _ => none
    else none
  | _ => none

/-! ## Tags -/

/-- The members whose name is given. -/
def membersNamed (name : String) (members : List Member) : List Json :=
  (members.filter fun m => m.name == name).map (·.value)

/-- The content comes before the tag. -/
def contentFirst (tag content : String) (members : List Member) : Bool :=
  ((members.find? fun m => m.name == tag || m.name == content).map (·.name == content)).getD false

/-- The tag and the content of a tagged content, which may have no content; the tag is a name from
a choice. A content in front of its tag has to be readable throughout. -/
def tagged? (tag content : String) (names : List String) (d : Document) :
    Option (String × Option Document) :=
  match d.value with
  | .object members =>
    match membersNamed tag members, membersNamed content members with
    | [t], [] => (d.part t).name?.map (·, none)
    | [t], [c] =>
      if contentFirst tag content members then
        if c.isReadable then (d.part t).name?.map (·, some ⟨c, true⟩) else none
      else (d.part t).name?.map (·, some (d.part c))
    | _, _ => none
  | .array [t, c] => (place? names (d.part t)).map (·, some (d.part c))
  | _ => none

/-- The tag of a tagged record, which is a name from a choice, and the record without it. All of it
has to be readable. -/
def taggedRecord? (tag : String) (names : List String) (d : Document) :
    Option (String × Document) :=
  if d.value.isReadable then
    match d.value with
    | .object members =>
      match membersNamed tag members with
      | [t] =>
        (place? names (d.part t)).map
          (·, ⟨.object (members.filter fun m => m.name != tag), true⟩)
      | _ => none
    | .array (t :: items) => (place? names (d.part t)).map (·, ⟨.array items, true⟩)
    | _ => none
  else none

end Document

namespace Members

/-- A member that has to be given. -/
def required {α : Type} (m : Members) (name : String) (read : Reader α) : Option α :=
  (m.lookup name).bind read

def withDefault {α : Type} (m : Members) (name : String) (default : α) (read : Reader α) :
    Option α :=
  match m.lookup name with
  | none => some default
  | some d => read d

end Members

namespace Reader

/-- Reads null as nothing. -/
def optional {α : Type} (read : Reader α) : Reader (Option α) := fun d =>
  match d.value with
  | .null => some none
  | _ => (read d).map some

/-- Reads each item of an array. -/
def list {α : Type} (read : Reader α) : Reader (List α) := fun d =>
  match d.value with
  | .array items => items.mapM fun j => read (d.part j)
  | _ => none

def string : Reader String
  | ⟨.string s, _⟩ => some s
  | _ => none

def bool : Reader Bool
  | ⟨.bool b, _⟩ => some b
  | _ => none

/-- An integer between bounds. -/
def integer (low high : Int) : Reader Int
  | ⟨.number n, _⟩ => n.integer?.filter fun i => low ≤ i && i ≤ high
  | _ => none

def uint8 : Reader UInt8 := fun d => (integer 0 0xFF d).map fun i => .ofNat i.toNat

def uint32 : Reader UInt32 := fun d => (integer 0 0xFFFFFFFF d).map fun i => .ofNat i.toNat

def uint64 : Reader UInt64 := fun d =>
  (integer 0 0xFFFFFFFFFFFFFFFF d).map fun i => .ofNat i.toNat

def int32 : Reader Int32 := fun d =>
  (integer Int32.minValue.toInt Int32.maxValue.toInt d).map Int32.ofInt

def int64 : Reader Int64 := fun d =>
  (integer Int64.minValue.toInt Int64.maxValue.toInt d).map Int64.ofInt

def double : Reader Double
  | ⟨.number n, _⟩ => n.double?
  | _ => none

def single : Reader Single
  | ⟨.number n, _⟩ => n.single?
  | _ => none

/-- One of a fixed choice of names. -/
def choice {α : Type} (names : List (String × α)) : Reader α := fun d =>
  d.name?.bind fun name => names.lookup name

end Reader

end SolrRequest

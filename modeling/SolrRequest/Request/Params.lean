import SolrRequest.Json.Print
import SolrRequest.Text.Percent

/-!
# Request parameters

Parameters are names with values, in order; a name may stand for several values. They are written
as a query string, as lines, or as a JSON object in which repeated names become arrays. What a
sequence of changes does to the values under a name is said by `getAll_add` and `getAll_set`.
-/

namespace SolrRequest

/-- Names with values, in order, with repetitions. -/
structure Params where
  entries : List (String × String)
deriving Repr, DecidableEq

namespace Params

def empty : Params := ⟨[]⟩

/-- Appends a value; what was under its name stays. -/
def add (p : Params) (name value : String) : Params :=
  ⟨p.entries ++ [(name, value)]⟩

/-- Replaces everything under a name by one value, which goes to the end. -/
def set (p : Params) (name value : String) : Params :=
  ⟨p.entries.filter (fun e => e.1 != name) ++ [(name, value)]⟩

/-- The values under a name, in order. -/
def getAll (p : Params) (name : String) : List String :=
  (p.entries.filter fun e => e.1 == name).map Prod.snd

/-- The first value under a name. -/
def get? (p : Params) (name : String) : Option String :=
  (p.entries.find? fun e => e.1 == name).map Prod.snd

/-- There is a value under a name. -/
def contains (p : Params) (name : String) : Bool :=
  p.entries.any fun e => e.1 == name

/-- The number of entries. -/
def size (p : Params) : Nat :=
  p.entries.length

def isEmpty (p : Params) : Bool :=
  p.entries.isEmpty

/-- Adds the names of entries to names already seen. -/
def addNames (seen : List String) : List (String × String) → List String
  | [] => seen
  | (name, _) :: r => addNames (if seen.contains name then seen else seen ++ [name]) r

/-- The names, each once, in the order in which they come first. -/
def names (p : Params) : List String :=
  addNames [] p.entries

/-- An entry in a query string. -/
def entryChars (e : String × String) : List Char :=
  Text.percentEncode e.1 ++ '=' :: Text.percentEncode e.2

/-- The query string: encoded entries with ampersands between them. -/
def url (p : Params) : String :=
  String.ofList (List.intercalate ['&'] (p.entries.map entryChars))

/-- The lines `name=value`, each with a line break. -/
def lines (p : Params) : String :=
  String.join (p.entries.map fun e => e.1 ++ "=" ++ e.2 ++ "\n")

/-- The values under a name in JSON: one text alone, or else an array. -/
def valuesJson : List String → Json
  | [value] => .string value
  | values => .ofStrings values

/-- The JSON object with every name once, in the order in which the names come first. -/
def toJson (p : Params) : Json :=
  .object (p.names.map fun name => ⟨name, valuesJson (p.getAll name)⟩)

/-- The JSON object with its names sorted. -/
def toSortedJson (p : Params) : Json :=
  .object ((p.names.mergeSort fun a b => decide (a ≤ b)).map fun name =>
    ⟨name, valuesJson (p.getAll name)⟩)

/-! ## Laws -/

theorem getAll_add (p : Params) (name value other : String) :
    (p.add name value).getAll other =
      p.getAll other ++ if name = other then [value] else [] := by
  by_cases h : name = other <;> simp [add, getAll, h]

theorem getAll_set (p : Params) (name value other : String) :
    (p.set name value).getAll other =
      if name = other then [value] else p.getAll other := by
  by_cases h : name = other
  · subst h
    simp [set, getAll, List.filter_filter]
  · have hne : ∀ e : String × String, (e.1 == other && e.1 != name) = (e.1 == other) := by
      intro e
      by_cases he : e.1 = other
      · have : e.1 ≠ name := fun hn => h (hn.symm.trans he)
        simp [he]
        exact fun hn => h hn.symm
      · simp [he]
    simp [set, getAll, List.filter_filter, h, hne]

end Params

end SolrRequest

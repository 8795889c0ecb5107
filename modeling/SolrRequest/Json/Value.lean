import SolrRequest.Number.Numeral

/-!
# JSON values

The members of an object keep their order and their repetitions, and numbers keep their digits.
The value `unreadable` stands for a text that is well formed but denotes nothing: a string with
half of a surrogate pair, an array or object nested too deeply, or a value that has no written
form. It can be passed over, but never read; `Json.isWhole` says that there is none inside.
-/

namespace SolrRequest

open Number

mutual

inductive Json where
  | null
  | bool (b : Bool)
  | number (n : Numeral)
  | string (s : String)
  | array (items : List Json)
  | object (members : List Member)
  | unreadable

/-- A member of a JSON object. -/
structure Member where
  name : String
  value : Json

end

deriving instance Inhabited for Json
deriving instance Inhabited for Member

namespace Json

/-- The number of an integer. -/
def ofInt (i : Int) : Json :=
  .number (.ofInt i)

/-- The number of a natural number. -/
def ofNat (n : Nat) : Json :=
  .number (.ofInt n)

/-- A list of texts. -/
def ofStrings (items : List String) : Json :=
  .array (items.map .string)

/-- The value itself, or null when there is none. -/
def ofOption : Option Json → Json
  | none => .null
  | some j => j

mutual

/-- Nothing unreadable is inside. -/
def isWhole : Json → Bool
  | .unreadable => false
  | .array items => areWhole items
  | .object members => membersAreWhole members
  | _ => true

/-- Nothing unreadable is inside of any item. -/
def areWhole : List Json → Bool
  | [] => true
  | j :: r => j.isWhole && areWhole r

/-- Nothing unreadable is inside of any member. -/
def membersAreWhole : List Member → Bool
  | [] => true
  | ⟨_, j⟩ :: r => j.isWhole && membersAreWhole r

end

mutual

/-- How deeply arrays and objects are nested. -/
def depth : Json → Nat
  | .array items => itemsDepth items + 1
  | .object members => membersDepth members + 1
  | _ => 0

/-- The greatest depth among the items. -/
def itemsDepth : List Json → Nat
  | [] => 0
  | j :: r => max j.depth (itemsDepth r)

/-- The greatest depth among the members. -/
def membersDepth : List Member → Nat
  | [] => 0
  | ⟨_, j⟩ :: r => max j.depth (membersDepth r)

end

end Json

end SolrRequest

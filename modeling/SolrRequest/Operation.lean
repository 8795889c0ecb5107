/-!
# Predicate operations

A predicate names its operation by a key. The known operations have keys that start with a dollar
sign; any other key is kept as it is. `PredicateKey.ofText_text` says that the text of a key reads
as the same key, unless it is a known key kept as an unknown one.
-/

namespace SolrRequest

/-- The known operations of predicates. -/
inductive Operation where
  | equals
  | between
  | near
  | within
  | fuzzy
  | sloppy
  | startsWith
  | endsWith
  | contains
  | expression
  | function
deriving Repr, DecidableEq

namespace Operation

/-- Every known operation. -/
def all : List Operation :=
  [equals, between, near, within, fuzzy, sloppy, startsWith, endsWith, contains, expression,
    function]

def key : Operation → String
  | equals => "$equals"
  | between => "$between"
  | near => "$near"
  | within => "$within"
  | fuzzy => "$fuzzy"
  | sloppy => "$sloppy"
  | startsWith => "$startsWith"
  | endsWith => "$endsWith"
  | contains => "$contains"
  | expression => "$expression"
  | function => "$function"

def ofKey? (key : String) : Option Operation :=
  all.find? (·.key == key)

/-- Operations whose fragment names the field itself. One of them among the predicates of a
criteria leaves the field out in front of all of them. -/
def namesField : Operation → Bool
  | near | within | function => true
  | _ => false

/-- The name of an operation in documents. -/
def name : Operation → String
  | equals => "equals"
  | between => "between"
  | near => "near"
  | within => "within"
  | fuzzy => "fuzzy"
  | sloppy => "sloppy"
  | startsWith => "starts_with"
  | endsWith => "ends_with"
  | contains => "contains"
  | expression => "expression"
  | function => "function"

theorem ofKey?_key (o : Operation) : ofKey? o.key = some o := by
  cases o <;> decide

theorem ofKey?_eq_some_iff {key : String} {o : Operation} : ofKey? key = some o ↔ o.key = key := by
  constructor
  · intro h
    have := List.find?_some h
    simpa using this
  · rintro rfl
    exact ofKey?_key o

end Operation

/-- The key of a predicate: a known operation, or any other text. -/
inductive PredicateKey where
  | known (operation : Operation)
  | custom (text : String)
deriving Repr, DecidableEq

namespace PredicateKey

/-- The key that a text stands for. -/
def ofText (text : String) : PredicateKey :=
  match Operation.ofKey? text with
  | some o => known o
  | none => custom text

def text : PredicateKey → String
  | known o => o.key
  | custom t => t

def operation? : PredicateKey → Option Operation
  | known o => some o
  | custom _ => none

/-- A custom key is none of the known ones. -/
def Proper : PredicateKey → Prop
  | known _ => True
  | custom t => Operation.ofKey? t = none

theorem ofText_text {k : PredicateKey} (h : k.Proper) : ofText k.text = k := by
  cases k with
  | known o => simp [ofText, text, Operation.ofKey?_key]
  | custom t =>
    have ht : Operation.ofKey? t = none := h
    simp [ofText, text, ht]

theorem text_ofText (t : String) : (ofText t).text = t := by
  unfold ofText
  cases h : Operation.ofKey? t with
  | none => rfl
  | some o => exact Operation.ofKey?_eq_some_iff.mp h

end PredicateKey

end SolrRequest

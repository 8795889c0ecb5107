import SolrRequest.Compiler

/-!
# Rules for predicates

Nine rules write predicates, each for its own operations. The first rule in the order of
`Rule.all` that accepts a predicate writes it; the last one takes predicates without a key or with
an unknown one. Here are the fragments of the payloads other than functions.
-/

namespace SolrRequest

open Number

/-- The rules by which predicates are written. -/
inductive Rule where
  | expression
  | between
  | near
  | within
  | fuzzy
  | sloppy
  | wildcard
  | function
  | literal
deriving Repr, DecidableEq

namespace Rule

/-- The rules in the order in which they are tried. -/
def all : List Rule :=
  [expression, between, near, within, fuzzy, sloppy, wildcard, function, literal]

/-- The rule is meant for an operation, or for predicates without a known one. -/
def takes : Rule → Option Operation → Bool
  | expression, some .expression => true
  | between, some .between => true
  | near, some .near => true
  | within, some .within => true
  | fuzzy, some .fuzzy => true
  | sloppy, some .sloppy => true
  | wildcard, some .startsWith => true
  | wildcard, some .endsWith => true
  | wildcard, some .contains => true
  | function, some .function => true
  | literal, some .equals => true
  | literal, none => true
  | _, _ => false

/-- The rule is meant for a predicate. -/
def accepts (r : Rule) (p : Predicate) : Bool :=
  r.takes p.operation?

/-- The first rule that accepts a predicate. -/
def find (p : Predicate) : Except Error Rule :=
  match all.find? (·.accepts p) with
  | some r => pure r
  | none => throw (.unsupportedPredicate p.keyText)

def ofOperation : Option Operation → Rule
  | none => literal
  | some .equals => literal
  | some .between => between
  | some .near => near
  | some .within => within
  | some .fuzzy => fuzzy
  | some .sloppy => sloppy
  | some .startsWith => wildcard
  | some .endsWith => wildcard
  | some .contains => wildcard
  | some .expression => expression
  | some .function => function

/-- Every predicate is accepted by some rule, which depends on its operation only. -/
theorem find_eq (p : Predicate) : find p = .ok (ofOperation p.operation?) := by
  have h : ∀ o : Option Operation, all.find? (·.takes o) = some (ofOperation o) := by
    intro o
    cases o with
    | none => rfl
    | some o => cases o <;> rfl
  have hp : all.find? (·.accepts p) = some (ofOperation p.operation?) := h p.operation?
  rw [find, hp]
  rfl

end Rule

/-! ## Fragments of payloads -/

/-- A bound of a range; an open side is an asterisk. -/
def Scope.boundText (s : Scope) : Option Value → String
  | none => "*"
  | some v => if v.isNull then "*" else s.literal v

/-- A range in brackets, which are square where the bound belongs to it. -/
def Scope.rangeText (s : Scope) (r : ValueRange) : String :=
  (if r.includeLower then "[" else "\x7b") ++ s.boundText r.lower ++ " TO " ++
    s.boundText r.upper ++ (if r.includeUpper then "]" else "\x7d")

/-- A similarity after the tilde. -/
def similarityText : Option Single → String
  | none => ""
  | some x => x.text

/-- A filter that looks around a center in a field. -/
def circleFilter (parser field : String) (center : Point) (distance : Distance) : String :=
  "\x7b!" ++ parser ++ " pt=" ++ center.text ++ " sfield=" ++ field ++ " d=" ++ distance.text ++
    "\x7d"

/-- The field that a spatial predicate needs. -/
def Scope.spatialField (s : Scope) (key : String) : Option Field → Except Error String
  | none => throw (.fieldRequired key)
  | some f => s.fieldName f

def Scope.singleFragment (s : Scope) (rule : Rule) (p : Predicate) (v : Value) :
    Except Error String :=
  match rule with
  | .expression =>
    match v with
    | .text raw => pure raw
    | other => pure (s.literal other)
  | .fuzzy => pure (s.literal v ++ "~")
  | .wildcard =>
    match p.operation? with
    | some .startsWith => pure (s.literal v ++ "*")
    | some .endsWith => pure ("*" ++ s.literal v)
    | _ => pure ("*" ++ s.literal v ++ "*")
  | .literal => pure (s.literal v)
  | _ => throw (.shapeMismatch p.keyText p.payload.shape)

/-- An area under a rule. -/
def Scope.geoFragment (s : Scope) (rule : Rule) (p : Predicate) (field : Option Field)
    (shape : GeoShape) : Except Error String :=
  match rule, shape with
  | .near, .circle center distance => do
    return circleFilter "bbox" (← s.spatialField p.keyText field) center distance
  | .near, .box bounds => do
    return (← s.spatialField p.keyText field) ++ ":" ++ bounds.text
  | .within, .circle center distance => do
    return circleFilter "geofilt" (← s.spatialField p.keyText field) center distance
  | _, _ => throw (.shapeMismatch p.keyText p.payload.shape)

/-- A predicate other than of a function under a rule. -/
def Scope.plainFragment (s : Scope) (rule : Rule) (p : Predicate) (field : Option Field) :
    Except Error String :=
  match p.payload with
  | .single v => s.singleFragment rule p v
  | .geo shape => s.geoFragment rule p field shape
  | .range r =>
    if rule = .between then pure (s.rangeText r)
    else throw (.shapeMismatch p.keyText p.payload.shape)
  | .fuzzy term similarity =>
    if rule = .fuzzy then pure (s.literal term ++ "~" ++ similarityText similarity)
    else throw (.shapeMismatch p.keyText p.payload.shape)
  | .sloppy phrase slop =>
    if rule = .sloppy then pure (s.literal phrase ++ "~" ++ toString slop.toNat)
    else throw (.shapeMismatch p.keyText p.payload.shape)
  | .null => throw (.shapeMismatch p.keyText p.payload.shape)
  | .function _ => throw (.shapeMismatch p.keyText p.payload.shape)

end SolrRequest

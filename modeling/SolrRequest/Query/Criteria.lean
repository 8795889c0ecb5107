import SolrRequest.Query.Basic

/-!
# Building criteria

A criteria starts from a field, or from none, and grows by predicates. The builders refuse what
would make no sense in a query; `Criteria.check` makes the checks of bounds again for criteria that
were read from a document.
-/

namespace SolrRequest

open Number Text

/-! ## Bounds -/

/-- Refuses a boost that is not finite or below zero. -/
def checkBoost (boost : Single) : Except Error Unit :=
  if !boost.isFinite || boost.isBelowZero then throw .negativeBoost else pure ()

/-- Refuses a similarity outside of 0 to 1. -/
def checkSimilarity (similarity : Single) : Except Error Unit :=
  if !similarity.isBelowZero && similarity.isAtMostOne then pure ()
  else throw .similarityOutOfBounds

/-- Refuses a slop of zero. -/
def checkSlop (slop : UInt32) : Except Error Unit :=
  if slop = 0 then throw .slopNotPositive else pure ()

/-- Refuses a phrase without a space inside. -/
def checkPhrase (phrase : String) : Except Error Unit :=
  if (trim phrase.toList).contains ' ' then pure () else throw .singleTermPhrase

/-- Refuses a distance that is not finite or below zero. -/
def checkDistance (distance : Distance) : Except Error Unit :=
  if !distance.value.isFinite || distance.value.isBelowZero then throw .negativeDistance
  else pure ()

/-- Refuses a wildcard text with white space. -/
def checkWildcard (text : String) : Except Error Unit :=
  if text.toList.any isSpace then throw (.spacedWildcard text) else pure ()

/-- Checks the bounds in a payload, whatever its key. -/
def Payload.check : Payload → Except Error Unit
  | .fuzzy _ (some similarity) => checkSimilarity similarity
  | .sloppy _ slop => checkSlop slop
  | .geo (.circle _ distance) => checkDistance distance
  | _ => pure ()

namespace Predicate

/-- The predicate of a known operation. -/
def of (operation : Operation) (payload : Payload) : Predicate :=
  ⟨some (.known operation), payload⟩

/-- The predicate of a key given as a text, or of no key. -/
def ofKey (key : Option String) (payload : Payload) : Predicate :=
  ⟨key.map PredicateKey.ofText, payload⟩

end Predicate

namespace Criteria

def on (f : Field) : Criteria :=
  { Criteria.empty with field := some f }

def onField (name : String) : Except Error Criteria :=
  (Field.named name).map on

/-- The criteria with one more predicate. -/
def withPredicate (c : Criteria) (p : Predicate) : Criteria :=
  { c with predicates := c.predicates ++ [p] }

/-- The criteria with one more predicate of a known operation. -/
def push (c : Criteria) (operation : Operation) (payload : Payload) : Criteria :=
  c.withPredicate (.of operation payload)

/-- Equal to a value; a null value is kept, and left out of the query later. -/
def equalTo (c : Criteria) (v : Value) : Criteria :=
  c.push .equals (.ofValue v)

/-- Equal to one of some values. -/
def oneOf (c : Criteria) (values : List Value) : Except Error Criteria :=
  if values.isEmpty then throw .noValues else return values.foldl equalTo c

def containing (c : Criteria) (text : String) : Except Error Criteria := do
  checkWildcard text
  return c.push .contains (.single (.text text))

def startingWith (c : Criteria) (text : String) : Except Error Criteria := do
  checkWildcard text
  return c.push .startsWith (.single (.text text))

def endingWith (c : Criteria) (text : String) : Except Error Criteria := do
  checkWildcard text
  return c.push .endsWith (.single (.text text))

/-- A query text as it stands. -/
def expression (c : Criteria) (query : String) : Criteria :=
  c.push .expression (.single (.text query))

/-- A bound of a range; null leaves the side open. -/
def bound (v : Value) : Option Value :=
  if v.isNull then none else some v

def between (c : Criteria) (lower upper : Value) (includeLower includeUpper : Bool) : Criteria :=
  c.push .between (.range ⟨bound lower, bound upper, includeLower, includeUpper⟩)

def greaterThan (c : Criteria) (v : Value) : Criteria :=
  c.between v .null false true

def atLeast (c : Criteria) (v : Value) : Criteria :=
  c.between v .null true true

def lessThan (c : Criteria) (v : Value) : Criteria :=
  c.between .null v true false

def atMost (c : Criteria) (v : Value) : Criteria :=
  c.between .null v true true

/-- The criteria negated, or no longer negated. -/
def not (c : Criteria) : Criteria :=
  { c with negating := !c.negating }

/-- Some value is present. -/
def isPresent (c : Criteria) : Criteria :=
  c.between .null .null true true

/-- No value is present. -/
def isAbsent (c : Criteria) : Criteria :=
  c.isPresent.not

def similarTo (c : Criteria) (term : String) (similarity : Option Single) :
    Except Error Criteria := do
  match similarity with
  | some s => checkSimilarity s
  | none => pure ()
  return c.push .fuzzy (.fuzzy (.text term) similarity)

/-- The terms of a phrase close to each other. -/
def sloppyPhrase (c : Criteria) (phrase : String) (slop : UInt32) : Except Error Criteria := do
  checkSlop slop
  checkPhrase phrase
  return c.push .sloppy (.sloppy (.text phrase) slop)

/-- In the box around a circle. -/
def near (c : Criteria) (center : Point) (distance : Distance) : Except Error Criteria := do
  checkDistance distance
  return c.push .near (.geo (.circle center distance))

def nearBox (c : Criteria) (bounds : GeoBox) : Criteria :=
  c.push .near (.geo (.box bounds))

/-- In a circle. -/
def within (c : Criteria) (center : Point) (distance : Distance) : Except Error Criteria := do
  checkDistance distance
  return c.push .within (.geo (.circle center distance))

def matching (c : Criteria) (f : FunctionQuery) : Criteria :=
  c.push .function (.function f)

/-- The criteria with a boost of its own. -/
def boosted (c : Criteria) (boost : Single) : Except Error Criteria := do
  checkBoost boost
  return { c with boost := some boost }

/-- Checks the boost and the bounds in every payload. -/
def check (c : Criteria) : Except Error Unit := do
  match c.boost with
  | some boost => checkBoost boost
  | none => pure ()
  c.predicates.forM fun p => p.payload.check

end Criteria

end SolrRequest

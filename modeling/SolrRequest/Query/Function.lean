import SolrRequest.Query.Basic

/-!
# Function queries

The number of arguments that known operations take, and builders for the common function queries.
A builder refuses what its function could not use; its result is a plain function query.
-/

namespace SolrRequest

open Number Text

/-- The least and the greatest number of arguments of an operation. -/
structure Arity where
  least : Nat
  most : Option Nat
deriving Repr, DecidableEq

namespace Arity

/-- The operations whose number of arguments is known. -/
def known : List (String × Arity) :=
  [("product", ⟨1, none⟩), ("sum", ⟨1, none⟩), ("sub", ⟨2, some 2⟩), ("div", ⟨2, some 2⟩),
    ("max", ⟨1, none⟩), ("min", ⟨1, none⟩), ("abs", ⟨1, some 1⟩), ("log", ⟨1, some 1⟩),
    ("sqrt", ⟨1, some 1⟩), ("pow", ⟨2, some 2⟩), ("exists", ⟨1, some 1⟩), ("not", ⟨1, some 1⟩),
    ("if", ⟨3, some 3⟩), ("def", ⟨2, some 2⟩), ("termfreq", ⟨2, some 2⟩),
    ("docfreq", ⟨2, some 2⟩), ("query", ⟨1, some 2⟩), ("geodist", ⟨0, some 3⟩),
    ("dist", ⟨3, none⟩), ("ms", ⟨0, some 2⟩)]

/-- The number of arguments of an operation, if it is known. -/
def of? (operation : String) : Option Arity :=
  known.lookup operation

/-- A number of arguments within the bounds. -/
def Allows (a : Arity) (count : Nat) : Prop :=
  a.least ≤ count ∧ ∀ most, a.most = some most → count ≤ most

/-- Refuses a number of arguments out of bounds. -/
def check (operation : String) (a : Arity) (count : Nat) : Except Error Unit := do
  if count < a.least then throw (.tooFewArguments operation a.least count)
  match a.most with
  | some most => if most < count then throw (.tooManyArguments operation most count)
  | none => pure ()

end Arity

namespace FunctionQuery

/-- Refuses a blank operation. -/
def check (f : FunctionQuery) : Except Error Unit :=
  if isBlank f.operation then throw .blankOperation else pure ()

/-- Refuses a wrong number of arguments of a known operation. -/
def checkArity (f : FunctionQuery) : Except Error Unit :=
  match Arity.of? f.operation with
  | some a => a.check f.operation f.args.length
  | none => pure ()

/-- A function query of any operation that is not blank. -/
def withArguments (operation : String) (arguments : Option (List Argument)) :
    Except Error FunctionQuery := do
  let f : FunctionQuery := ⟨operation, arguments⟩
  f.check
  return f

/-- A function query without arguments. -/
def named (operation : String) : Except Error FunctionQuery :=
  withArguments operation none

/-- The function query with one more argument. -/
def arg (f : FunctionQuery) (a : Argument) : FunctionQuery :=
  { f with arguments := some (f.args ++ [a]) }

/-- A call with at least one argument. -/
def call (operation : String) (arguments : List Argument) : FunctionQuery :=
  ⟨operation, some arguments⟩

end FunctionQuery

/-- What a numeric function takes: a field, a number or another function. -/
inductive Operand where
  | field (f : Field)
  | number (v : Value)
  | function (f : FunctionQuery)

namespace Operand

def ofField (name : String) : Except Error Operand :=
  (Field.named name).map field

def toArgument : Operand → Argument
  | field f => .field f
  | number v => .value v
  | function f => .function f

end Operand

namespace FunctionQuery

/-- The product of operands; more can be multiplied in with `times`. -/
def product (first : Operand) : FunctionQuery :=
  call "product" [first.toArgument]

def times (f : FunctionQuery) (factor : Operand) : FunctionQuery :=
  f.arg factor.toArgument

def timesField (f : FunctionQuery) (name : String) : Except Error FunctionQuery :=
  (Operand.ofField name).map f.times

/-- A call on one operand or more. -/
def ofOperands (operation : String) (operands : List Operand) : Except Error FunctionQuery :=
  if operands.isEmpty then throw (.noOperands operation)
  else return call operation (operands.map (·.toArgument))

def sum (operands : List Operand) : Except Error FunctionQuery :=
  ofOperands "sum" operands

def max (operands : List Operand) : Except Error FunctionQuery :=
  ofOperands "max" operands

def div (dividend divisor : Operand) : FunctionQuery :=
  call "div" [dividend.toArgument, divisor.toArgument]

/-- The operand has a value. -/
def present (operand : Operand) : FunctionQuery :=
  call "exists" [operand.toArgument]

def not (operand : Operand) : FunctionQuery :=
  call "not" [operand.toArgument]

/-- The second argument where the condition holds, the third one elsewhere. -/
def ifElse (condition : Operand) (thenValue elseValue : Argument) : Except Error FunctionQuery :=
  if thenValue.isNull || elseValue.isNull then throw .nullBranch
  else return call "if" [condition.toArgument, thenValue, elseValue]

/-- The value of a field, or a default where it has none. -/
def orElse (field : String) (default : Argument) : Except Error FunctionQuery := do
  if default.isNull then throw .nullDefault
  return call "def" [.field (← Field.named field), default]

/-- How often a term occurs in a field. -/
def termFrequency (field term : String) : Except Error FunctionQuery := do
  if isBlank term then throw .blankTerm
  return call "termfreq" [.field (← Field.named field), .value (.text term)]

def geoDistance (field : String) (place : Point) : Except Error FunctionQuery := do
  return call "geodist" [.field (← Field.named field), .value (.point place)]

/-- The distance of two points in the norm of a power. -/
def pointDistance (power : Double) (a b : Point) : Except Error FunctionQuery :=
  if !power.isFinite || power.negative || power.isZero then throw .powerNotPositive
  else return call "dist" [.value (.float power), .value (.point a), .value (.point b)]

/-- The milliseconds of the current time. -/
def currentTime : FunctionQuery :=
  ⟨"ms", none⟩

def milliseconds (date : Argument) : Except Error FunctionQuery :=
  if date.isNull then throw .nullDate else return call "ms" [date]

/-- The score of a query, with a default where it does not match. -/
def score (q : Query) (default : Option Double) : FunctionQuery :=
  call "query" (.query q :: (default.map fun x => [Argument.value (.float x)]).getD [])

end FunctionQuery

end SolrRequest

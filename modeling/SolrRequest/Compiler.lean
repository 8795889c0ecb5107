import SolrRequest.Conversion
import SolrRequest.Query.Basic

/-!
# Compilers

A compiler holds what every rendering needs: a configuration, a conversion of values to texts and a
way to name fields. `Scope` is a compiler at work for one domain.
-/

namespace SolrRequest

/-- The settings of a compiler. -/
structure Configuration where
  /-- The page size of queries that set none. -/
  defaultRows : Option UInt32
  /-- The operator of queries that set none. -/
  defaultOperator : Option Operator
  /-- How many digits the fractions of dates have. -/
  fractionDigits : UInt8
  /-- Known functions with a wrong number of arguments are refused. -/
  strictFunctions : Bool
  fields : FieldMappings
deriving Repr, DecidableEq

namespace Configuration

def default : Configuration where
  defaultRows := none
  defaultOperator := none
  fractionDigits := 3
  strictFunctions := false
  fields := .empty

/-- Refuses an impossible number of digits, a page size of zero, and blank index fields. -/
def check (c : Configuration) : Except Error Unit := do
  if (Time.Precision.ofDigits? c.fractionDigits.toNat).isNone then
    throw (.fractionDigits c.fractionDigits.toNat)
  if c.defaultRows = some 0 then throw .zeroDefaultRows
  c.fields.check

end Configuration

/-- What turns queries into requests. -/
structure Compiler where
  configuration : Configuration
  conversion : Conversion
  /-- The index field of a field in a domain. -/
  fieldName : Option String → Field → String

namespace Compiler

/-- The compiler of the default configuration. -/
def default : Compiler where
  configuration := .default
  conversion := .default
  fieldName := FieldMappings.empty.resolve

/-- A compiler of a configuration, which is checked. What is not given is taken from it. -/
def build (configuration : Configuration) (conversion : Option Conversion)
    (fieldName : Option (Option String → Field → String)) : Except Error Compiler := do
  configuration.check
  let conversion ← match conversion with
    | some conversion => pure conversion
    | none => Conversion.build [] (some configuration.fractionDigits)
  return ⟨configuration, conversion, fieldName.getD configuration.fields.resolve⟩

def ofConfiguration (configuration : Configuration) : Except Error Compiler :=
  build configuration none none

end Compiler

/-- A compiler at work for a domain, or for none. -/
structure Scope where
  compiler : Compiler
  domain : Option String

namespace Scope

/-- The index field of a field, whose name must not be blank. -/
def fieldName (s : Scope) (f : Field) : Except Error String := do
  f.check
  return s.compiler.fieldName s.domain f

/-- The text of a value in a criteria. -/
def literal (s : Scope) (v : Value) : String :=
  s.compiler.conversion.literal v

end Scope

end SolrRequest

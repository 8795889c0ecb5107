import SolrRequest.Fragment.Rule
import SolrRequest.Query.Criteria
import SolrRequest.Query.Function

/-!
# Query texts

The text of a node, a criteria and a function query. A predicate with a null payload, a criteria of
such predicates only, a blank raw query and a group of nothing else give no text and are left out,
together with the link in front of them.

The functions of the mutual block follow the tree:

* `Node.fragment` writes a node, with parentheses around a group that is not at the root;
* `Criteria.fragment` writes `-field:(…)^boost`;
* `FunctionQuery.body` writes `operation(…)`, and `FunctionQuery.fragment` puts the function
  prefix in front at level 0;
* `Node.queryText` is the text of a whole query, which is `*:*` when nothing is written.
-/

namespace SolrRequest

open Number Text

/-- The query for everything. -/
def matchAll : String := "*:*"

/-- What tells the query parser that a function query follows. -/
def functionPrefix : String := "\x7b!func\x7d"

/-- Joins the clauses that are written; each but the first of them is preceded by its link. -/
def joinClauses : List (Junction × Option String) → Option String
  | [] => none
  | (_, none) :: r => joinClauses r
  | (_, some text) :: r =>
    some (r.foldl (fun body clause =>
      match clause with
      | (_, none) => body
      | (junction, some next) => body ++ junction.separator ++ next) text)

/-- The text of a group of joined clauses. -/
def enclose (nested negating : Bool) (body : String) : String :=
  if negating then "-(" ++ body ++ ")"
  else if nested then "(" ++ body ++ ")"
  else body

/-- The boost of a criteria: its own, or else that of its field. -/
def Criteria.effectiveBoost (c : Criteria) : Option Single :=
  c.boost.or (c.field.bind (·.boost))

/-- A boost with its mark. -/
def boostText : Option Single → String
  | none => ""
  | some boost => "^" ++ boost.text

/-- The field in front of the fragments; none when a predicate names the field itself. -/
def Criteria.fieldText (c : Criteria) (name : Option String) : String :=
  if c.predicates.any fun p => (p.operation?.map (·.namesField)).getD false then ""
  else match name with
    | some name => name ++ ":"
    | none => ""

/-- The fragments of a chain; several are enclosed in parentheses. -/
def chainText : List String → String
  | [fragment] => fragment
  | fragments => "(" ++ " ".intercalate fragments ++ ")"

/-- Puts the parts of a criteria together, from its field's name and the fragments of its
predicates that are written. -/
def Criteria.assemble (c : Criteria) (name : Option String) (fragments : List String) :
    Option String :=
  let sign := if c.negating then "-" else ""
  if c.predicates.isEmpty then
    name.map fun name => sign ++ name ++ ":[* TO *]" ++ boostText c.effectiveBoost
  else if fragments.isEmpty then none
  else some (sign ++ c.fieldText name ++ chainText fragments ++ boostText c.effectiveBoost)

/-- The index field of a criteria's field, if it has one. -/
def Scope.fieldName? (s : Scope) : Option Field → Except Error (Option String)
  | none => pure none
  | some f => some <$> s.fieldName f

mutual

/-- The text of a node. -/
def Node.fragment (s : Scope) (nested : Bool) : Node → Except Error (Option String)
  | .criteria c => c.fragment s
  | .raw query => pure (if isBlank query then none else some query)
  | .group g => g.fragment s nested

/-- The text of a group. -/
def ClauseGroup.fragment (s : Scope) (nested : Bool) :
    ClauseGroup → Except Error (Option String)
  | ⟨clauses, negating, _⟩ => do
    let parts ← ClauseGroup.clauseFragments s clauses
    return (joinClauses parts).map (enclose nested negating)

/-- The texts of clauses with their links. -/
def ClauseGroup.clauseFragments (s : Scope) :
    List Clause → Except Error (List (Junction × Option String))
  | [] => pure []
  | ⟨junction, node⟩ :: r => do
    let text ← node.fragment s true
    let rest ← ClauseGroup.clauseFragments s r
    return (junction, text) :: rest

/-- The text of a criteria. -/
def Criteria.fragment (s : Scope) : Criteria → Except Error (Option String)
  | ⟨field, predicates, negating, boost⟩ => do
    let c : Criteria := ⟨field, predicates, negating, boost⟩
    c.check
    let name ← s.fieldName? field
    let fragments ← Criteria.predicateFragments s field predicates
    return c.assemble name (fragments.filterMap id)

/-- The texts of predicates, each by the first rule that accepts it. -/
def Criteria.predicateFragments (s : Scope) (field : Option Field) :
    List Predicate → Except Error (List (Option String))
  | [] => pure []
  | p :: r => do
    let rule ← Rule.find p
    let text ← p.fragment s rule field
    let rest ← Criteria.predicateFragments s field r
    return text :: rest

/-- The text of a predicate by a rule; none when it compares with null. -/
def Predicate.fragment (s : Scope) (rule : Rule) (field : Option Field) :
    Predicate → Except Error (Option String)
  | ⟨key, .function f⟩ =>
    if rule = .function then do return some (functionPrefix ++ (← f.body s))
    else throw (.shapeMismatch (Predicate.mk key (.function f)).keyText "function")
  | ⟨key, payload⟩ =>
    if payload.isNull then pure none
    else some <$> s.plainFragment rule ⟨key, payload⟩ field

/-- A function query without the prefix. -/
def FunctionQuery.body (s : Scope) : FunctionQuery → Except Error String
  | ⟨operation, none⟩ => do
    let f : FunctionQuery := ⟨operation, none⟩
    f.check
    if s.compiler.configuration.strictFunctions then f.checkArity
    return operation ++ "()"
  | ⟨operation, some arguments⟩ => do
    let f : FunctionQuery := ⟨operation, some arguments⟩
    f.check
    if s.compiler.configuration.strictFunctions then f.checkArity
    return operation ++ "(" ++ ",".intercalate (← FunctionQuery.argumentTexts s arguments) ++ ")"

def FunctionQuery.argumentTexts (s : Scope) : List Argument → Except Error (List String)
  | [] => pure []
  | a :: r => do
    let text ← a.text s
    let rest ← FunctionQuery.argumentTexts s r
    return text :: rest

/-- The text of an argument: values are converted without escaping, nested criteria and queries
stand as whole query texts. -/
def Argument.text (s : Scope) : Argument → Except Error String
  | .value v =>
    match s.compiler.conversion.text? v with
    | some text => pure text
    | none => throw .nullArgument
  | .field f => s.fieldName f
  | .function f => f.body s
  | .criteria n => do return (← n.fragment s false).getD matchAll
  | .query { criteria := n, .. } => do return (← n.fragment s false).getD matchAll

end

/-- The text of a whole query. -/
def Node.queryText (s : Scope) (n : Node) : Except Error String := do
  return (← n.fragment s false).getD matchAll

/-- A function query at a level of nesting; only at level 0 it has the prefix. -/
def FunctionQuery.fragment (s : Scope) (level : Nat) (f : FunctionQuery) : Except Error String := do
  let body ← f.body s
  return if level = 0 then functionPrefix ++ body else body

/-- The text of a calculated field, with its name in front unless that is blank. -/
def CalculatedField.fragment (s : Scope) (c : CalculatedField) : Except Error String := do
  let text ← c.function.fragment s 0
  return match c.shownName with
    | some name => name ++ ":" ++ text
    | none => text

end SolrRequest

import SolrRequest.Proofs.Fragment.Acceptance
import SolrRequest.Proofs.Outcome

/-!
# Strict functions

A strict compiler counts the arguments of known functions, and does nothing else that a lenient one
does not do. `Node.calls` and its companions list the function queries that the renderer of a tree
comes to: those of predicates, and those among arguments, where criteria and the criteria of queries
are entered too. The strict text of a tree is the lenient one, refused when some function query in
that list has a number of arguments that its operation does not take (`Node.strict_fragment`).
-/

namespace SolrRequest

/-! ## Function queries in trees -/

mutual

/-- A function query and those among its arguments. -/
def FunctionQuery.calls : FunctionQuery → List FunctionQuery
  | ⟨operation, none⟩ => [⟨operation, none⟩]
  | ⟨operation, some arguments⟩ =>
    ⟨operation, some arguments⟩ :: FunctionQuery.argumentCalls arguments

def FunctionQuery.argumentCalls : List Argument → List FunctionQuery
  | [] => []
  | a :: r => a.calls ++ FunctionQuery.argumentCalls r

/-- Of a query among arguments only the criteria is written. -/
def Argument.calls : Argument → List FunctionQuery
  | .value _ => []
  | .field _ => []
  | .function f => f.calls
  | .criteria n => n.calls
  | .query { criteria := n, .. } => n.calls

def Predicate.calls : Predicate → List FunctionQuery
  | ⟨_, .function f⟩ => f.calls
  | _ => []

def Criteria.calls : Criteria → List FunctionQuery
  | ⟨_, predicates, _, _⟩ => Criteria.predicateCalls predicates

def Criteria.predicateCalls : List Predicate → List FunctionQuery
  | [] => []
  | p :: r => p.calls ++ Criteria.predicateCalls r

/-- The function queries that writing a node comes to. -/
def Node.calls : Node → List FunctionQuery
  | .criteria c => c.calls
  | .raw _ => []
  | .group g => g.calls

def ClauseGroup.calls : ClauseGroup → List FunctionQuery
  | ⟨clauses, _, _⟩ => ClauseGroup.clauseCalls clauses

def ClauseGroup.clauseCalls : List Clause → List FunctionQuery
  | [] => []
  | ⟨_, node⟩ :: r => node.calls ++ ClauseGroup.clauseCalls r

end

/-- The function query has as many arguments as its operation takes, as far as that is known. -/
def FunctionQuery.Permitted (f : FunctionQuery) : Prop :=
  Arity.Permits f.operation f.args.length

/-- All function queries in a list have as many arguments as they should. -/
def AllPermitted (calls : List FunctionQuery) : Prop :=
  ∀ f ∈ calls, f.Permitted

theorem allPermitted_append {l m : List FunctionQuery} :
    AllPermitted (l ++ m) ↔ AllPermitted l ∧ AllPermitted m :=
  List.forall_mem_append

theorem allPermitted_nil : AllPermitted [] :=
  List.forall_mem_nil _

/-! ## Strict and lenient compilers -/

/-- The compiler with function queries counted, or not. -/
def Compiler.withStrict (c : Compiler) (on : Bool) : Compiler :=
  { c with configuration := { c.configuration with strictFunctions := on } }

def Scope.withStrict (s : Scope) (on : Bool) : Scope :=
  ⟨s.compiler.withStrict on, s.domain⟩

/-- Only strict compilers have this check. -/
theorem FunctionQuery.strict_checkArity (f : FunctionQuery) :
    Restricts f.Permitted (.ok ()) f.checkArity := by
  have h : Accepts f.Permitted f.checkArity := f.accepts_checkArity
  generalize f.checkArity = x at h
  cases h with
  | ok hP => exact .ok hP ()
  | error hP => exact .refused hP () _

namespace Scope

variable (s : Scope)

theorem fieldName?_withStrict (on : Bool) (field : Option Field) :
    (s.withStrict on).fieldName? field = s.fieldName? field := by
  cases field <;> rfl

/-- No payload but that of a function is written differently. -/
theorem plainFragment_withStrict (on : Bool) (rule : Rule) (p : Predicate) (field : Option Field) :
    (s.withStrict on).plainFragment rule p field = s.plainFragment rule p field := by
  obtain ⟨key, payload⟩ := p
  cases payload with
  | geo shape =>
    unfold plainFragment geoFragment
    cases field <;> rfl
  | _ => rfl

/-- The checks at the start of a function query, in front of its arguments. -/
theorem strict_checks (f : FunctionQuery) {P : Prop} {α : Type} {x y : Except Error α}
    (h : Restricts P x y) :
    Restricts (f.Permitted ∧ P)
      (f.check >>= fun _ =>
        if (s.withStrict false).compiler.configuration.strictFunctions then
          f.checkArity >>= fun _ => x else x)
      (f.check >>= fun _ =>
        if (s.withStrict true).compiler.configuration.strictFunctions then
          f.checkArity >>= fun _ => y else y) :=
  .bind_left f.check fun _ => f.strict_checkArity.bind fun _ => h

end Scope

/-! ## Following the tree -/

/-- A predicate without a function. -/
theorem Predicate.strict_plain (s : Scope) (rule : Rule) (field : Option Field)
    (key : Option PredicateKey) {p : Payload} (hp : p.shape ≠ "function") :
    Restricts (AllPermitted (Predicate.mk key p).calls)
      ((Predicate.mk key p).fragment (s.withStrict false) rule field)
      ((Predicate.mk key p).fragment (s.withStrict true) rule field) := by
  have hfunction : ∀ f, p ≠ .function f := by
    rintro f rfl
    exact hp rfl
  have hcalls : (Predicate.mk key p).calls = [] := by
    rw [Predicate.calls]
    rintro key f ⟨⟩
    exact hp rfl
  rw [hcalls, Predicate.fragment, Predicate.fragment, s.plainFragment_withStrict,
    s.plainFragment_withStrict]
  · exact .refl allPermitted_nil _
  all_goals exact hfunction

mutual

/-- **The strict text of a node is the lenient one**, but for the function queries in it that do not
have as many arguments as they should. -/
theorem Node.strict_fragment (s : Scope) (nested : Bool) : ∀ n : Node,
    Restricts (AllPermitted n.calls) (n.fragment (s.withStrict false) nested)
      (n.fragment (s.withStrict true) nested)
  | .criteria c => by
    rw [Node.calls, Node.fragment, Node.fragment]
    exact Criteria.strict_fragment s c
  | .raw query => .refl allPermitted_nil _
  | .group g => by
    rw [Node.calls, Node.fragment, Node.fragment]
    exact ClauseGroup.strict_fragment s nested g

theorem ClauseGroup.strict_fragment (s : Scope) (nested : Bool) : ∀ g : ClauseGroup,
    Restricts (AllPermitted g.calls) (g.fragment (s.withStrict false) nested)
      (g.fragment (s.withStrict true) nested)
  | ⟨clauses, negating, chained⟩ => by
    rw [ClauseGroup.calls, ClauseGroup.fragment, ClauseGroup.fragment]
    exact (ClauseGroup.strict_clauseFragments s clauses).bind_ok _

theorem ClauseGroup.strict_clauseFragments (s : Scope) : ∀ clauses : List Clause,
    Restricts (AllPermitted (ClauseGroup.clauseCalls clauses))
      (ClauseGroup.clauseFragments (s.withStrict false) clauses)
      (ClauseGroup.clauseFragments (s.withStrict true) clauses)
  | [] => .refl allPermitted_nil _
  | ⟨junction, node⟩ :: r => by
    rw [ClauseGroup.clauseCalls, ClauseGroup.clauseFragments, ClauseGroup.clauseFragments]
    refine ((Node.strict_fragment s true node).bind fun _ => ?_).congr allPermitted_append.symm
    exact (ClauseGroup.strict_clauseFragments s r).bind_ok _

theorem Criteria.strict_fragment (s : Scope) : ∀ c : Criteria,
    Restricts (AllPermitted c.calls) (c.fragment (s.withStrict false))
      (c.fragment (s.withStrict true))
  | ⟨field, predicates, negating, boost⟩ => by
    rw [Criteria.calls, Criteria.fragment, Criteria.fragment, s.fieldName?_withStrict,
      s.fieldName?_withStrict]
    refine .bind_left _ fun _ => .bind_left _ fun _ => ?_
    exact (Criteria.strict_predicateFragments s field predicates).bind_ok _

theorem Criteria.strict_predicateFragments (s : Scope) (field : Option Field) :
    ∀ predicates : List Predicate,
    Restricts (AllPermitted (Criteria.predicateCalls predicates))
      (Criteria.predicateFragments (s.withStrict false) field predicates)
      (Criteria.predicateFragments (s.withStrict true) field predicates)
  | [] => .refl allPermitted_nil _
  | p :: r => by
    rw [Criteria.predicateCalls, Criteria.predicateFragments, Criteria.predicateFragments]
    refine .bind_left _ fun rule => ?_
    refine ((Predicate.strict_fragment s rule field p).bind fun _ => ?_).congr
      allPermitted_append.symm
    exact (Criteria.strict_predicateFragments s field r).bind_ok _

theorem Predicate.strict_fragment (s : Scope) (rule : Rule) (field : Option Field) :
    ∀ p : Predicate,
    Restricts (AllPermitted p.calls) (p.fragment (s.withStrict false) rule field)
      (p.fragment (s.withStrict true) rule field)
  | ⟨key, .function f⟩ => by
    rw [Predicate.calls, Predicate.fragment, Predicate.fragment]
    by_cases hrule : rule = .function
    · rw [if_pos hrule, if_pos hrule]
      exact (FunctionQuery.strict_body s f).bind_ok _
    · rw [if_neg hrule, if_neg hrule]
      exact .error _ _
  | ⟨key, .null⟩ => Predicate.strict_plain s rule field key (by decide)
  | ⟨key, .single v⟩ => Predicate.strict_plain s rule field key (by simp [Payload.shape])
  | ⟨key, .range r⟩ => Predicate.strict_plain s rule field key (by simp [Payload.shape])
  | ⟨key, .geo g⟩ => Predicate.strict_plain s rule field key (by simp [Payload.shape])
  | ⟨key, .fuzzy term x⟩ => Predicate.strict_plain s rule field key (by simp [Payload.shape])
  | ⟨key, .sloppy phrase n⟩ => Predicate.strict_plain s rule field key (by simp [Payload.shape])

/-- The function query itself is counted first. -/
theorem FunctionQuery.strict_body (s : Scope) : ∀ f : FunctionQuery,
    Restricts (AllPermitted f.calls) (f.body (s.withStrict false)) (f.body (s.withStrict true))
  | ⟨operation, none⟩ => by
    have hchecks := s.strict_checks ⟨operation, none⟩
      (.refl allPermitted_nil (.ok (operation ++ "()")))
    rw [FunctionQuery.calls, FunctionQuery.body, FunctionQuery.body]
    exact hchecks.congr List.forall_mem_cons.symm
  | ⟨operation, some arguments⟩ => by
    have hchecks := s.strict_checks ⟨operation, some arguments⟩
      ((FunctionQuery.strict_argumentTexts s arguments).bind_ok
        fun texts => operation ++ "(" ++ ",".intercalate texts ++ ")")
    rw [FunctionQuery.calls, FunctionQuery.body, FunctionQuery.body]
    exact hchecks.congr List.forall_mem_cons.symm

theorem FunctionQuery.strict_argumentTexts (s : Scope) : ∀ arguments : List Argument,
    Restricts (AllPermitted (FunctionQuery.argumentCalls arguments))
      (FunctionQuery.argumentTexts (s.withStrict false) arguments)
      (FunctionQuery.argumentTexts (s.withStrict true) arguments)
  | [] => .refl allPermitted_nil _
  | a :: r => by
    rw [FunctionQuery.argumentCalls, FunctionQuery.argumentTexts, FunctionQuery.argumentTexts]
    refine ((Argument.strict_text s a).bind fun _ => ?_).congr allPermitted_append.symm
    exact (FunctionQuery.strict_argumentTexts s r).bind_ok _

theorem Argument.strict_text (s : Scope) : ∀ a : Argument,
    Restricts (AllPermitted a.calls) (a.text (s.withStrict false)) (a.text (s.withStrict true))
  | .value v => .refl allPermitted_nil _
  | .field f => .refl allPermitted_nil _
  | .function f => by
    rw [Argument.calls, Argument.text, Argument.text]
    exact FunctionQuery.strict_body s f
  | .criteria n => by
    rw [Argument.calls, Argument.text, Argument.text]
    exact (Node.strict_fragment s false n).bind_ok _
  | .query ⟨n, _, _, _, _, _, _, _, _, _, _, _, _⟩ => by
    rw [Argument.calls, Argument.text, Argument.text]
    exact (Node.strict_fragment s false n).bind_ok _

end

/-! ## Whole texts -/

theorem Node.strict_queryText (s : Scope) (n : Node) :
    Restricts (AllPermitted n.calls) (n.queryText (s.withStrict false))
      (n.queryText (s.withStrict true)) :=
  (n.strict_fragment s false).bind_ok _

theorem FunctionQuery.strict_fragment (s : Scope) (level : Nat) (f : FunctionQuery) :
    Restricts (AllPermitted f.calls) (f.fragment (s.withStrict false) level)
      (f.fragment (s.withStrict true) level) :=
  (f.strict_body s).bind_ok _

theorem CalculatedField.strict_fragment (s : Scope) (c : CalculatedField) :
    Restricts (AllPermitted c.function.calls) (c.fragment (s.withStrict false))
      (c.fragment (s.withStrict true)) :=
  (c.function.strict_fragment s 0).bind_ok _

end SolrRequest

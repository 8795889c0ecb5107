import SolrRequest.Fragment.Render
import SolrRequest.Proofs.Query.WellFormed

/-!
# What the renderer accepts

The text of a node is written exactly when the node is well-formed (`Node.accepts_fragment`), and
likewise the text of each other kind of tree. Whether parts are left out makes no difference, and
neither does the domain.
-/

namespace SolrRequest

open Number Text

namespace Scope

variable (s : Scope)

theorem accepts_fieldName (f : Field) : Accepts f.IsNamed (s.fieldName f) :=
  f.accepts_check.bind_ok fun _ => s.compiler.fieldName s.domain f

theorem accepts_fieldName? (field : Option Field) :
    Accepts (∀ f ∈ field, f.IsNamed) (s.fieldName? field) := by
  cases field with
  | none => exact .ok nofun none
  | some f => exact ((s.accepts_fieldName f).map some).congr forall_mem_some_iff.symm

/-- A field that is there has its name checked before. -/
theorem accepts_spatialField {field : Option Field} (hfield : ∀ f ∈ field, f.IsNamed)
    (key : String) : Accepts (field.isSome = true) (s.spatialField key field) := by
  cases field with
  | none => exact .error Bool.false_ne_true rfl
  | some f => exact (s.accepts_fieldName f).congr ⟨fun _ => rfl, fun _ => hfield f rfl⟩

theorem accepts_singleFragment (key : Option PredicateKey) (field : Option Field) (v : Value) :
    Accepts ((Payload.single v).Fits field (key.bind (·.operation?)))
      (s.singleFragment (.ofOperation (key.bind (·.operation?))) ⟨key, .single v⟩ v) := by
  unfold Scope.singleFragment
  simp only [Predicate.operation?]
  generalize key.bind (·.operation?) = operation
  cases operation with
  | none => exact .ok trivial _
  | some o =>
    cases o with
    | equals | startsWith | endsWith | contains | fuzzy => exact .ok trivial _
    | expression => cases v <;> exact .ok trivial _
    | between | near | within | sloppy | function => exact .error id rfl

theorem accepts_geoFragment {field : Option Field} (hfield : ∀ f ∈ field, f.IsNamed)
    (key : Option PredicateKey) (shape : GeoShape) :
    Accepts ((Payload.geo shape).Fits field (key.bind (·.operation?)))
      (s.geoFragment (.ofOperation (key.bind (·.operation?))) ⟨key, .geo shape⟩ field shape) := by
  have hspatial := s.accepts_spatialField hfield (Predicate.mk key (.geo shape)).keyText
  generalize key.bind (·.operation?) = operation
  cases operation with
  | none => exact .error id rfl
  | some o =>
    cases o with
    | near =>
      cases shape with
      | circle center distance => exact hspatial.bind_ok _
      | box bounds => exact hspatial.bind_ok _
    | within =>
      cases shape with
      | circle center distance => exact hspatial.bind_ok _
      | box bounds => exact .error id rfl
    | equals | between | fuzzy | sloppy | startsWith | endsWith | contains | expression
    | function => exact .error id rfl

/-- A payload without a function is written exactly when it fits its operation. -/
theorem accepts_plainFragment {field : Option Field} (hfield : ∀ f ∈ field, f.IsNamed)
    (key : Option PredicateKey) {p : Payload} (hp : p.shape ≠ "function") :
    Accepts (p.Fits field (key.bind (·.operation?)))
      (s.plainFragment (.ofOperation (key.bind (·.operation?))) ⟨key, p⟩ field) := by
  cases p with
  | single v => exact s.accepts_singleFragment key field v
  | geo shape => exact s.accepts_geoFragment hfield key shape
  | null =>
    refine .error (fun h => ?_) rfl
    generalize key.bind (·.operation?) = operation at h
    cases operation with
    | none => exact h
    | some o => cases o <;> exact h
  | range r =>
    generalize key.bind (·.operation?) = operation
    cases operation with
    | none => exact .error id rfl
    | some o =>
      cases o with
      | between => exact .ok trivial _
      | equals | near | within | fuzzy | sloppy | startsWith | endsWith | contains | expression
      | function => exact .error id rfl
  | fuzzy term similarity =>
    generalize key.bind (·.operation?) = operation
    cases operation with
    | none => exact .error id rfl
    | some o =>
      cases o with
      | fuzzy => exact .ok trivial _
      | equals | between | near | within | sloppy | startsWith | endsWith | contains | expression
      | function => exact .error id rfl
  | sloppy phrase slop =>
    generalize key.bind (·.operation?) = operation
    cases operation with
    | none => exact .error id rfl
    | some o =>
      cases o with
      | sloppy => exact .ok trivial _
      | equals | between | near | within | fuzzy | startsWith | endsWith | contains | expression
      | function => exact .error id rfl
  | function f => exact absurd rfl hp

/-- Only null has no text. -/
theorem accepts_valueText (v : Value) : Accepts (v ≠ .null) ((Argument.value v).text s) := by
  rw [Argument.text]
  cases v with
  | null => exact .error (fun h => h rfl) rfl
  | _ =>
    refine .ok (fun h => ?_) _
    cases h

/-- The checks at the start of a function query, in front of its arguments. -/
theorem accepts_checks (f : FunctionQuery) {P : Prop} {α : Type} {x : Except Error α}
    (hx : Accepts P x) :
    Accepts (isBlank f.operation = false ∧
        (s.compiler.configuration.strictFunctions = true →
          Arity.Permits f.operation f.args.length) ∧ P)
      (f.check >>= fun _ =>
        if s.compiler.configuration.strictFunctions then f.checkArity >>= fun _ => x else x) := by
  refine f.accepts_check.bind fun _ _ => ?_
  by_cases hstrict : s.compiler.configuration.strictFunctions = true
  · simp only [hstrict, if_true, forall_const]
    exact f.accepts_checkArity.bind fun _ _ => hx
  · simp only [hstrict, Bool.false_eq_true, if_false, false_imp_iff, true_and]
    exact hx

end Scope

/-! ## Following the tree -/

/-- A predicate without a function. -/
theorem Predicate.accepts_plain (s : Scope) {field : Option Field}
    (hfield : ∀ f ∈ field, f.IsNamed) (key : Option PredicateKey) {p : Payload}
    (hp : p.shape ≠ "function") :
    Accepts ((Predicate.mk key p).WellFormed s.compiler.configuration.strictFunctions field)
      ((Predicate.mk key p).fragment s (.ofOperation (key.bind (·.operation?))) field) := by
  have hfunction : ∀ f, p ≠ .function f := by
    rintro f rfl
    exact hp rfl
  rw [Predicate.WellFormed, Predicate.fragment]
  · by_cases hnull : p.isNull = true
    · simp only [hnull, if_true, true_or]
      exact .always none
    · simp only [hnull, Bool.false_eq_true, if_false, false_or]
      exact (s.accepts_plainFragment hfield key hp).map some
  · exact hfunction
  · exact hfunction

mutual

/-- A node is written exactly when it is well-formed. -/
theorem Node.accepts_fragment (s : Scope) (nested : Bool) : ∀ n : Node,
    Accepts (n.WellFormed s.compiler.configuration.strictFunctions) (n.fragment s nested)
  | .criteria c => by
    rw [Node.WellFormed, Node.fragment]
    exact Criteria.accepts_fragment s c
  | .raw query => .always _
  | .group g => by
    rw [Node.WellFormed, Node.fragment]
    exact ClauseGroup.accepts_fragment s nested g

theorem ClauseGroup.accepts_fragment (s : Scope) (nested : Bool) : ∀ g : ClauseGroup,
    Accepts (g.WellFormed s.compiler.configuration.strictFunctions) (g.fragment s nested)
  | ⟨clauses, negating, chained⟩ => by
    rw [ClauseGroup.WellFormed, ClauseGroup.fragment]
    exact (ClauseGroup.accepts_clauseFragments s clauses).bind_ok _

theorem ClauseGroup.accepts_clauseFragments (s : Scope) : ∀ clauses : List Clause,
    Accepts (ClauseGroup.ClausesWellFormed s.compiler.configuration.strictFunctions clauses)
      (ClauseGroup.clauseFragments s clauses)
  | [] => .always []
  | ⟨junction, node⟩ :: r => by
    rw [ClauseGroup.ClausesWellFormed, ClauseGroup.clauseFragments]
    exact (Node.accepts_fragment s true node).bind fun _ _ =>
      (ClauseGroup.accepts_clauseFragments s r).bind_ok _

/-- The bounds and the field are looked at first, then each predicate. -/
theorem Criteria.accepts_fragment (s : Scope) : ∀ c : Criteria,
    Accepts (c.WellFormed s.compiler.configuration.strictFunctions) (c.fragment s)
  | ⟨field, predicates, negating, boost⟩ => by
    have hcheck := Criteria.accepts_check ⟨field, predicates, negating, boost⟩
    rw [Criteria.WellFormed, Criteria.fragment, ← and_assoc]
    refine hcheck.bind fun _ _ => (s.accepts_fieldName? field).bind fun name hname => ?_
    -- the name has been looked up, so predicates on the field cannot fail for it
    have hfield : ∀ f ∈ field, f.IsNamed := (hname ▸ s.accepts_fieldName? field).holds
    exact (Criteria.accepts_predicateFragments s hfield predicates).bind_ok _

theorem Criteria.accepts_predicateFragments (s : Scope) {field : Option Field}
    (hfield : ∀ f ∈ field, f.IsNamed) : ∀ predicates : List Predicate,
    Accepts
      (Criteria.PredicatesWellFormed s.compiler.configuration.strictFunctions field predicates)
      (Criteria.predicateFragments s field predicates)
  | [] => .always []
  | p :: r => by
    rw [Criteria.PredicatesWellFormed, Criteria.predicateFragments, Rule.find_eq]
    exact (Predicate.accepts_fragment s hfield p).bind fun _ _ =>
      (Criteria.accepts_predicateFragments s hfield r).bind_ok _

theorem Predicate.accepts_fragment (s : Scope) {field : Option Field}
    (hfield : ∀ f ∈ field, f.IsNamed) : ∀ p : Predicate,
    Accepts (p.WellFormed s.compiler.configuration.strictFunctions field)
      (p.fragment s (.ofOperation p.operation?) field)
  | ⟨key, .function f⟩ => by
    have hbody := (FunctionQuery.accepts_body s f).bind_ok (some <| functionPrefix ++ ·)
    rw [Predicate.WellFormed, Predicate.fragment, Predicate.operation?]
    generalize key.bind (·.operation?) = operation
    cases operation with
    | none => exact .error And.left rfl
    | some o =>
      cases o with
      | function => exact hbody.congr (true_and _).symm.to_iff
      | equals | between | near | within | fuzzy | sloppy | startsWith | endsWith | contains
      | expression => exact .error And.left rfl
  | ⟨key, .null⟩ => Predicate.accepts_plain s hfield key (by decide)
  | ⟨key, .single v⟩ => Predicate.accepts_plain s hfield key (by simp [Payload.shape])
  | ⟨key, .range r⟩ => Predicate.accepts_plain s hfield key (by simp [Payload.shape])
  | ⟨key, .geo g⟩ => Predicate.accepts_plain s hfield key (by simp [Payload.shape])
  | ⟨key, .fuzzy term x⟩ => Predicate.accepts_plain s hfield key (by simp [Payload.shape])
  | ⟨key, .sloppy phrase n⟩ => Predicate.accepts_plain s hfield key (by simp [Payload.shape])

theorem FunctionQuery.accepts_body (s : Scope) : ∀ f : FunctionQuery,
    Accepts (f.WellFormed s.compiler.configuration.strictFunctions) (f.body s)
  | ⟨operation, none⟩ => by
    have hchecks := s.accepts_checks ⟨operation, none⟩ (.always (operation ++ "()"))
    rw [FunctionQuery.WellFormed, FunctionQuery.body]
    exact hchecks.congr (and_congr_right fun _ => (and_true _).to_iff)
  | ⟨operation, some arguments⟩ => by
    rw [FunctionQuery.WellFormed, FunctionQuery.body]
    exact s.accepts_checks ⟨operation, some arguments⟩
      ((FunctionQuery.accepts_argumentTexts s arguments).bind_ok _)

theorem FunctionQuery.accepts_argumentTexts (s : Scope) : ∀ arguments : List Argument,
    Accepts (FunctionQuery.ArgumentsWellFormed s.compiler.configuration.strictFunctions arguments)
      (FunctionQuery.argumentTexts s arguments)
  | [] => .always []
  | a :: r => by
    rw [FunctionQuery.ArgumentsWellFormed, FunctionQuery.argumentTexts]
    exact (Argument.accepts_text s a).bind fun _ _ =>
      (FunctionQuery.accepts_argumentTexts s r).bind_ok _

theorem Argument.accepts_text (s : Scope) : ∀ a : Argument,
    Accepts (a.WellFormed s.compiler.configuration.strictFunctions) (a.text s)
  | .value v => s.accepts_valueText v
  | .field f => by
    rw [Argument.WellFormed, Argument.text]
    exact s.accepts_fieldName f
  | .function f => by
    rw [Argument.WellFormed, Argument.text]
    exact FunctionQuery.accepts_body s f
  | .criteria n => by
    rw [Argument.WellFormed, Argument.text]
    exact (Node.accepts_fragment s false n).bind_ok _
  | .query ⟨n, _, _, _, _, _, _, _, _, _, _, _, _⟩ => by
    rw [Argument.WellFormed, Argument.text]
    exact (Node.accepts_fragment s false n).bind_ok _

end

/-! ## Whole texts -/

theorem Node.accepts_queryText (s : Scope) (n : Node) :
    Accepts (n.WellFormed s.compiler.configuration.strictFunctions) (n.queryText s) :=
  (n.accepts_fragment s false).bind_ok _

theorem FunctionQuery.accepts_fragment (s : Scope) (level : Nat) (f : FunctionQuery) :
    Accepts (f.WellFormed s.compiler.configuration.strictFunctions) (f.fragment s level) :=
  (f.accepts_body s).bind_ok _

theorem CalculatedField.accepts_fragment (s : Scope) (c : CalculatedField) :
    Accepts (c.function.WellFormed s.compiler.configuration.strictFunctions) (c.fragment s) :=
  (c.function.accepts_fragment s 0).bind_ok _

end SolrRequest

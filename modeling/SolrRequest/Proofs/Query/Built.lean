import SolrRequest.Proofs.Fragment.Acceptance
import SolrRequest.Proofs.Fragment.Omission
import SolrRequest.Query.Node

/-!
# What builders make

`Criteria.Built`, `Node.Built` and `Query.Built` are the criteria, trees and queries that builders
make, one successful call after the other; each has one case for each builder. Criteria start from
a named field, and predicates are only added by the builders that know their payloads. Functions
may come from anywhere, if they have a text.

What every builder of criteria keeps is `Criteria.Legible`: such criteria are well-formed, and the
predicates that name the field themselves are always written. A property that all criteria of a
tree have, `Node.Every`, is kept by joining and negating.
-/

namespace SolrRequest

/-! ## Building -/

/-- The function has a text, in one domain or another. -/
def FunctionQuery.Renders (c : Compiler) (f : FunctionQuery) : Prop :=
  ∃ domain text, f.fragment ⟨c, domain⟩ 0 = .ok text

inductive Criteria.Built (c : Compiler) : Criteria → Prop where
  | onField {name : String} {r : Criteria} : Criteria.onField name = .ok r → Built c r
  | equalTo {k : Criteria} (v : Value) : Built c k → Built c (k.equalTo v)
  | oneOf {k r : Criteria} {values : List Value} :
      Built c k → k.oneOf values = .ok r → Built c r
  | containing {k r : Criteria} {text : String} :
      Built c k → k.containing text = .ok r → Built c r
  | startingWith {k r : Criteria} {text : String} :
      Built c k → k.startingWith text = .ok r → Built c r
  | endingWith {k r : Criteria} {text : String} :
      Built c k → k.endingWith text = .ok r → Built c r
  | expression {k : Criteria} (query : String) : Built c k → Built c (k.expression query)
  | between {k : Criteria} (lower upper : Value) (includeLower includeUpper : Bool) :
      Built c k → Built c (k.between lower upper includeLower includeUpper)
  | greaterThan {k : Criteria} (v : Value) : Built c k → Built c (k.greaterThan v)
  | atLeast {k : Criteria} (v : Value) : Built c k → Built c (k.atLeast v)
  | lessThan {k : Criteria} (v : Value) : Built c k → Built c (k.lessThan v)
  | atMost {k : Criteria} (v : Value) : Built c k → Built c (k.atMost v)
  | isPresent {k : Criteria} : Built c k → Built c k.isPresent
  | isAbsent {k : Criteria} : Built c k → Built c k.isAbsent
  | similarTo {k r : Criteria} {term : String} {similarity : Option Number.Single} :
      Built c k → k.similarTo term similarity = .ok r → Built c r
  | sloppyPhrase {k r : Criteria} {phrase : String} {slop : UInt32} :
      Built c k → k.sloppyPhrase phrase slop = .ok r → Built c r
  | near {k r : Criteria} {center : Point} {distance : Distance} :
      Built c k → k.near center distance = .ok r → Built c r
  | nearBox {k : Criteria} (bounds : GeoBox) : Built c k → Built c (k.nearBox bounds)
  | within {k r : Criteria} {center : Point} {distance : Distance} :
      Built c k → k.within center distance = .ok r → Built c r
  | matching {k : Criteria} {f : FunctionQuery} :
      Built c k → f.Renders c → Built c (k.matching f)
  | boosted {k r : Criteria} {boost : Number.Single} :
      Built c k → k.boosted boost = .ok r → Built c r
  | not {k : Criteria} : Built c k → Built c k.not

inductive Node.Built (c : Compiler) : Node → Prop where
  | criteria {k : Criteria} : k.Built c → Built c (.criteria k)
  | raw (query : String) : Built c (.raw query)
  | grouped {clauses : List (Junction × Node)} :
      (∀ clause ∈ clauses, Built c clause.2) → Built c (.grouped clauses)
  | and {m n : Node} : Built c m → Built c n → Built c (m.and n)
  | or {m n : Node} : Built c m → Built c n → Built c (m.or n)
  | not {n : Node} : Built c n → Built c n.not

inductive Sorting.Built : Sorting → Prop where
  | empty : Built []
  | andThen {s r : Sorting} {field : String} {direction : Direction} :
      Built s → s.andThen field direction = .ok r → Built r
  | append {s t : Sorting} : Built s → Built t → Built (s ++ t)

inductive FacetOptions.Built (c : Compiler) : FacetOptions → Prop where
  | default : Built c .default
  | onField {o r : FacetOptions} {name : String} :
      Built c o → o.onField name = .ok r → Built c r
  | onQuery {o : FacetOptions} {n : Node} : Built c o → n.Built c → Built c (o.onQuery n)
  | withLimit {o : FacetOptions} (limit : UInt32) : Built c o → Built c (o.withLimit limit)
  | withMinCount {o : FacetOptions} (count : UInt32) : Built c o → Built c (o.withMinCount count)
  | withSort {o : FacetOptions} (sort : FacetSort) : Built c o → Built c (o.withSort sort)
  | withStart {o : FacetOptions} (start : String) : Built c o → Built c (o.withStart start)
  | withOffset {o : FacetOptions} (offset : UInt32) : Built c o → Built c (o.withOffset offset)
  | withMissing {o : FacetOptions} (on : Bool) : Built c o → Built c (o.withMissing on)

mutual

/-- Grouping options are only set when there is something to group by. -/
inductive Query.Built (c : Compiler) : Query → Prop where
  | default : Query.Built c .default
  | of {n : Node} : n.Built c → Query.Built c (.of n)
  | withCriteria {q : Query} {n : Node} :
      Query.Built c q → n.Built c → Query.Built c (q.withCriteria n)
  | withFilter {q : Query} {n : Node} :
      Query.Built c q → n.Built c → Query.Built c (q.withFilter n)
  | withProjection {q r : Query} {name : String} :
      Query.Built c q → q.withProjection name = .ok r → Query.Built c r
  | withCalculated {q : Query} {f : CalculatedField} :
      Query.Built c q → f.function.Renders c → Query.Built c (q.withCalculated f)
  | withSort {q : Query} {sort : Sorting} :
      Query.Built c q → sort.Built → Query.Built c (q.withSort sort)
  | withPage {q r : Query} {offset : UInt64} {rows : UInt32} :
      Query.Built c q → q.withPage offset rows = .ok r → Query.Built c r
  | withRows {q r : Query} {rows : UInt32} :
      Query.Built c q → q.withRows rows = .ok r → Query.Built c r
  | withGroupOptions {q : Query} {g : GroupOptions} :
      Query.Built c q → GroupOptions.Built c g → g.NamesAny →
        Query.Built c (q.withGroupOptions g)
  | withFacetOptions {q : Query} {o : FacetOptions} :
      Query.Built c q → o.Built c → Query.Built c (q.withFacetOptions o)
  | withOperator {q : Query} (operator : Operator) :
      Query.Built c q → Query.Built c (q.withOperator operator)
  | withDefType {q : Query} (defType : String) :
      Query.Built c q → Query.Built c (q.withDefType defType)
  | withHandler {q : Query} (handler : String) :
      Query.Built c q → Query.Built c (q.withHandler handler)
  | withTimeAllowed {q : Query} (millis : UInt32) :
      Query.Built c q → Query.Built c (q.withTimeAllowed millis)

inductive GroupOptions.Built (c : Compiler) : GroupOptions → Prop where
  | default : GroupOptions.Built c .default
  | byField {g r : GroupOptions} {name : String} :
      GroupOptions.Built c g → g.byField name = .ok r → GroupOptions.Built c r
  | byFunction {g : GroupOptions} {f : FunctionQuery} :
      GroupOptions.Built c g → f.Renders c → GroupOptions.Built c (g.byFunction f)
  | byQuery {g : GroupOptions} {q : Query} :
      GroupOptions.Built c g → Query.Built c q → GroupOptions.Built c (g.byQuery q)
  | withLimit {g r : GroupOptions} {limit : Int32} :
      GroupOptions.Built c g → g.withLimit limit = .ok r → GroupOptions.Built c r
  | withOffset {g : GroupOptions} (offset : UInt32) :
      GroupOptions.Built c g → GroupOptions.Built c (g.withOffset offset)
  | withSort {g : GroupOptions} {sort : Sorting} :
      GroupOptions.Built c g → sort.Built → GroupOptions.Built c (g.withSort sort)
  | withTotalCount {g : GroupOptions} (on : Bool) :
      GroupOptions.Built c g → GroupOptions.Built c (g.withTotalCount on)
  | withMain {g : GroupOptions} (on : Bool) :
      GroupOptions.Built c g → GroupOptions.Built c (g.withMain on)
  | withFacets {g : GroupOptions} (on : Bool) :
      GroupOptions.Built c g → GroupOptions.Built c (g.withFacets on)
  | withTruncate {g : GroupOptions} (on : Bool) :
      GroupOptions.Built c g → GroupOptions.Built c (g.withTruncate on)
  | withCachePercent {g r : GroupOptions} {percent : UInt8} :
      GroupOptions.Built c g → g.withCachePercent percent = .ok r → GroupOptions.Built c r

end

/-! ## Criteria -/

theorem FunctionQuery.Renders.wellFormed {c : Compiler} {f : FunctionQuery} (h : f.Renders c) :
    f.WellFormed c.configuration.strictFunctions := by
  obtain ⟨domain, text, htext⟩ := h
  exact (htext ▸ f.accepts_fragment ⟨c, domain⟩ 0).holds

theorem Field.isNamed_of_named {name : String} {f : Field} (h : Field.named name = .ok f) :
    f.IsNamed := by
  obtain ⟨hnamed, -, hf⟩ := (Field.accepts_check ⟨name, none⟩).holds_of_bind h
  cases hf
  exact hnamed

structure Predicate.Legible (strict : Bool) (field : Option Field) (p : Predicate) : Prop where
  bounded : p.payload.Bounded
  wellFormed : p.WellFormed strict field
  shown : p.NamesField → p.payload.isNull = false

/-- A well-formed criteria on a field. If a predicate names the field, then it is not left out, and
the field is in the text. -/
structure Criteria.Legible (strict : Bool) (k : Criteria) : Prop where
  field : ∃ f, k.field = some f ∧ f.IsNamed
  boost : ∀ x ∈ k.boost, x.IsMagnitude
  predicates : ∀ p ∈ k.predicates, p.Legible strict k.field

namespace Criteria.Legible

variable {strict : Bool} {k r : Criteria}

theorem wellFormed (h : k.Legible strict) : k.WellFormed strict := by
  obtain ⟨field, predicates, negating, boost⟩ := k
  obtain ⟨f, hf, hnamed⟩ := h.field
  refine ⟨h.boost, fun p hp => (h.predicates p hp).bounded, fun g hg => ?_, ?_⟩
  · cases hf.symm.trans hg
    exact hnamed
  · exact Criteria.predicatesWellFormed_iff.mpr fun p hp => (h.predicates p hp).wellFormed

/-- Every builder of predicates ends in a push. -/
theorem push (h : k.Legible strict) {operation : Operation} {payload : Payload}
    (hp : ∀ f, (Predicate.of operation payload).Legible strict (some f)) :
    (k.push operation payload).Legible strict := by
  -- there is a field, so payloads that need one fit
  obtain ⟨f, hf, -⟩ := h.field
  refine ⟨h.field, h.boost, fun p hmem => ?_⟩
  rcases List.mem_append.mp hmem with hold | hnew
  · exact h.predicates p hold
  · cases List.mem_singleton.mp hnew
    show (Predicate.of operation payload).Legible strict k.field
    rw [hf]
    exact hp f

theorem on {f : Field} (h : f.IsNamed) : (Criteria.on f).Legible strict :=
  ⟨⟨f, rfl, h⟩, nofun, List.forall_mem_nil _⟩

theorem equalTo (h : k.Legible strict) (v : Value) : (k.equalTo v).Legible strict := by
  refine h.push fun f => ?_
  unfold Payload.ofValue
  split
  · exact ⟨trivial, .inl rfl, nofun⟩
  · exact ⟨trivial, .inr trivial, nofun⟩

theorem foldl_equalTo (values : List Value) (h : k.Legible strict) :
    (values.foldl Criteria.equalTo k).Legible strict := by
  induction values generalizing k with
  | nil => exact h
  | cons v values ih => exact ih (h.equalTo v)

theorem oneOf (h : k.Legible strict) {values : List Value} (hr : k.oneOf values = .ok r) :
    r.Legible strict := by
  unfold Criteria.oneOf at hr
  split at hr
  · cases hr
  · cases hr
    exact h.foldl_equalTo values

/-- The three wildcard builders push after one check. -/
theorem wildcard (h : k.Legible strict) {text : String} {operation : Operation}
    (hr : (do checkWildcard text; return k.push operation (.single (.text text))) = .ok r)
    (hp : ∀ f, (Predicate.of operation (.single (.text text))).Legible strict (some f)) :
    r.Legible strict := by
  obtain ⟨-, -, hr⟩ := bind_eq_ok_iff.mp hr
  cases hr
  exact h.push hp

theorem expression (h : k.Legible strict) (query : String) :
    (k.expression query).Legible strict :=
  h.push fun _ => ⟨trivial, .inr trivial, nofun⟩

theorem between (h : k.Legible strict) (lower upper : Value) (includeLower includeUpper : Bool) :
    (k.between lower upper includeLower includeUpper).Legible strict :=
  h.push fun _ => ⟨trivial, .inr trivial, nofun⟩

theorem not (h : k.Legible strict) : k.not.Legible strict :=
  ⟨h.field, h.boost, h.predicates⟩

theorem similarTo (h : k.Legible strict) {term : String} {similarity : Option Number.Single}
    (hr : k.similarTo term similarity = .ok r) : r.Legible strict := by
  cases similarity with
  | none =>
    cases hr
    exact h.push fun _ => ⟨trivial, .inr trivial, nofun⟩
  | some x =>
    have hbind : (do checkSimilarity x; .ok (k.push .fuzzy (.fuzzy (.text term) (some x)))) =
        Except.ok r := hr
    obtain ⟨hx, -, hpush⟩ := (accepts_checkSimilarity x).holds_of_bind hbind
    cases hpush
    exact h.push fun _ => ⟨hx, .inr trivial, nofun⟩

theorem sloppyPhrase (h : k.Legible strict) {phrase : String} {slop : UInt32}
    (hr : k.sloppyPhrase phrase slop = .ok r) : r.Legible strict := by
  obtain ⟨hslop, -, hr⟩ := (accepts_checkSlop slop).holds_of_bind hr
  obtain ⟨-, -, hr⟩ := bind_eq_ok_iff.mp hr
  cases hr
  exact h.push fun _ => ⟨hslop, .inr trivial, nofun⟩

theorem near (h : k.Legible strict) {center : Point} {distance : Distance}
    (hr : k.near center distance = .ok r) : r.Legible strict := by
  obtain ⟨hdistance, -, hr⟩ := (accepts_checkDistance distance).holds_of_bind hr
  cases hr
  exact h.push fun _ => ⟨hdistance, .inr rfl, fun _ => rfl⟩

theorem nearBox (h : k.Legible strict) (bounds : GeoBox) : (k.nearBox bounds).Legible strict :=
  h.push fun _ => ⟨trivial, .inr rfl, fun _ => rfl⟩

theorem within (h : k.Legible strict) {center : Point} {distance : Distance}
    (hr : k.within center distance = .ok r) : r.Legible strict := by
  obtain ⟨hdistance, -, hr⟩ := (accepts_checkDistance distance).holds_of_bind hr
  cases hr
  exact h.push fun _ => ⟨hdistance, .inr rfl, fun _ => rfl⟩

theorem matching (h : k.Legible strict) {f : FunctionQuery} (hf : f.WellFormed strict) :
    (k.matching f).Legible strict :=
  h.push fun _ => ⟨trivial, ⟨trivial, hf⟩, fun _ => rfl⟩

theorem boosted (h : k.Legible strict) {boost : Number.Single} (hr : k.boosted boost = .ok r) :
    r.Legible strict := by
  obtain ⟨hboost, -, hr⟩ := (accepts_checkBoost boost).holds_of_bind hr
  cases hr
  exact ⟨h.field, forall_mem_some_iff.mpr hboost, h.predicates⟩

end Criteria.Legible

theorem Criteria.Built.legible {c : Compiler} {k : Criteria} (h : k.Built c) :
    k.Legible c.configuration.strictFunctions := by
  induction h with
  | onField hr =>
    obtain ⟨f, hf, rfl⟩ := map_eq_ok_iff.mp hr
    exact .on (Field.isNamed_of_named hf)
  | equalTo v _ ih => exact ih.equalTo v
  | oneOf _ hr ih => exact ih.oneOf hr
  | containing _ hr ih => exact ih.wildcard hr fun _ => ⟨trivial, .inr trivial, nofun⟩
  | startingWith _ hr ih => exact ih.wildcard hr fun _ => ⟨trivial, .inr trivial, nofun⟩
  | endingWith _ hr ih => exact ih.wildcard hr fun _ => ⟨trivial, .inr trivial, nofun⟩
  | expression query _ ih => exact ih.expression query
  | between lower upper includeLower includeUpper _ ih => exact ih.between _ _ _ _
  | greaterThan v _ ih => exact ih.between _ _ _ _
  | atLeast v _ ih => exact ih.between _ _ _ _
  | lessThan v _ ih => exact ih.between _ _ _ _
  | atMost v _ ih => exact ih.between _ _ _ _
  | isPresent _ ih => exact ih.between _ _ _ _
  | isAbsent _ ih => exact (ih.between _ _ _ _).not
  | similarTo _ hr ih => exact ih.similarTo hr
  | sloppyPhrase _ hr ih => exact ih.sloppyPhrase hr
  | near _ hr ih => exact ih.near hr
  | nearBox bounds _ ih => exact ih.nearBox bounds
  | within _ hr ih => exact ih.within hr
  | matching _ hf ih => exact ih.matching hf.wellFormed
  | boosted _ hr ih => exact ih.boosted hr
  | not _ ih => exact ih.not

/-! ## Trees -/

/-- Every criteria of the tree has a property. -/
inductive Node.Every (P : Criteria → Prop) : Node → Prop where
  | criteria {k : Criteria} : P k → Every P (.criteria k)
  | raw (query : String) : Every P (.raw query)
  | group {clauses : List Clause} (negating chained : Bool) :
      (∀ clause ∈ clauses, Every P clause.node) → Every P (.group ⟨clauses, negating, chained⟩)

namespace Node.Every

variable {P : Criteria → Prop} {m n : Node}

theorem join (junction : Junction) (hm : m.Every P) (hn : n.Every P) :
    (m.join junction n).Every P := by
  unfold Node.join
  -- a chain is extended, anything else is the first clause of a new one
  split
  · cases hm with
    | group _ _ hclauses => exact .group _ _ (forall_mem_concat hclauses hn)
  · have hright : ∀ clause ∈ [Clause.mk junction n], clause.node.Every P :=
      List.forall_mem_singleton.mpr hn
    exact .group _ _ (List.forall_mem_cons.mpr ⟨hm, hright⟩)

theorem not (hP : ∀ k, P k → P k.not) (hn : n.Every P) : n.not.Every P := by
  cases hn with
  | criteria hk => exact .criteria (hP _ hk)
  | raw query => exact .group _ _ (List.forall_mem_singleton.mpr (.raw query))
  | group _ _ hclauses => exact .group _ _ hclauses

theorem wellFormed {strict : Bool} (h : n.Every (Criteria.Legible strict)) :
    n.WellFormed strict := by
  induction h with
  | criteria hk => exact hk.wellFormed
  | raw query => trivial
  | group negating chained _ ih => exact ClauseGroup.clausesWellFormed_iff.mpr ih

end Node.Every

theorem Node.Built.every {c : Compiler} {n : Node} (h : n.Built c) :
    n.Every (Criteria.Legible c.configuration.strictFunctions) := by
  induction h with
  | criteria hk => exact .criteria hk.legible
  | raw query => exact .raw query
  | grouped _ ih => exact .group _ _ (List.forall_mem_map.mpr ih)
  | and _ _ ihm ihn => exact ihm.join .and ihn
  | or _ _ ihm ihn => exact ihm.join .or ihn
  | not _ ih => exact ih.not fun _ hk => hk.not

theorem Sorting.Built.isNamed {sort : Sorting} (h : sort.Built) : ∀ o ∈ sort, o.field.IsNamed := by
  induction h with
  | empty => exact List.forall_mem_nil _
  | andThen _ hr ih =>
    obtain ⟨f, hf, hr⟩ := bind_eq_ok_iff.mp hr
    cases hr
    exact forall_mem_concat ih (Field.isNamed_of_named hf)
  | append _ _ ihs iht => exact List.forall_mem_append.mpr ⟨ihs, iht⟩

end SolrRequest

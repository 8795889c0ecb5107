import SolrRequest.Proofs.Acceptance
import SolrRequest.Proofs.Number.Plain
import SolrRequest.Query.Criteria
import SolrRequest.Query.Function
import SolrRequest.Query.Options

/-!
# Well-formed criteria and bounded queries

What a query must be like to be written, said of its parts and without writing them.

* A criteria is well-formed when its boost and the bounds in its payloads are in range, its field
  has a name, and every payload that is not null fits the operation of its predicate
  (`Payload.Fits`). Bounds count in null payloads as well.
* A function query is well-formed when it has an operation, no argument is null, and everything
  among its arguments is well-formed; a *strict* reader also counts its arguments. Of a query
  among the arguments only the tree of criteria counts.
* A query is bounded (`Query.Bounded`) when its page and its grouping are in range, and so are the
  queries that it groups by, and those that these group by.
* Options name something (`GroupOptions.NamesAny`, `FacetOptions.NamesAny`) when one of their lists
  of fields, functions and queries is not empty.

The checks that builders and renderer share accept exactly under these conditions.
-/

namespace SolrRequest

open Number Text

/-! ## Ranges -/

/-- The name is not blank. -/
def Field.IsNamed (f : Field) : Prop :=
  isBlank f.name = false

/-- A finite number that is not below zero, as boosts and distances have to be. -/
def Number.Floating.IsMagnitude {f : BinaryFormat} (x : Floating f) : Prop :=
  x.isFinite = true ∧ x.isBelowZero = false

/-- The negative zero is not below zero. -/
theorem Number.Floating.IsMagnitude.isZero {f : BinaryFormat} {x : Floating f}
    (h : x.IsMagnitude) (hnegative : x.negative = true) : x.isZero = true := by
  obtain ⟨hfinite, hbelow⟩ := h
  rw [Floating.isBelowZero, (Floating.finite_cases hfinite).1, hnegative] at hbelow
  simpa using hbelow

/-- A number from 0 to 1. -/
def Number.Floating.IsFraction {f : BinaryFormat} (x : Floating f) : Prop :=
  x.isBelowZero = false ∧ x.isAtMostOne = true

/-- The numbers in a payload are in range. -/
def Payload.Bounded : Payload → Prop
  | .fuzzy _ (some similarity) => similarity.IsFraction
  | .sloppy _ slop => slop ≠ 0
  | .geo (.circle _ distance) => distance.value.IsMagnitude
  | _ => True

/-- The operation takes such a payload on the field. -/
def Payload.Fits (field : Option Field) : Option Operation → Payload → Prop
  | none, .single _ => True
  | some .equals, .single _ => True
  | some .startsWith, .single _ => True
  | some .endsWith, .single _ => True
  | some .contains, .single _ => True
  | some .expression, .single _ => True
  | some .fuzzy, .single _ => True
  | some .fuzzy, .fuzzy _ _ => True
  | some .sloppy, .sloppy _ _ => True
  | some .between, .range _ => True
  | some .near, .geo _ => field.isSome = true
  | some .within, .geo (.circle _ _) => field.isSome = true
  | some .function, .function _ => True
  | _, _ => False

/-- The operation takes this number of arguments, as far as it is known. -/
def Arity.Permits (operation : String) (count : Nat) : Prop :=
  ∀ a ∈ Arity.of? operation, a.Allows count

/-! ## Trees -/

mutual

def FunctionQuery.WellFormed (strict : Bool) : FunctionQuery → Prop
  | ⟨operation, none⟩ =>
    isBlank operation = false ∧ (strict = true → Arity.Permits operation 0)
  | ⟨operation, some arguments⟩ =>
    isBlank operation = false ∧ (strict = true → Arity.Permits operation arguments.length) ∧
      FunctionQuery.ArgumentsWellFormed strict arguments

def FunctionQuery.ArgumentsWellFormed (strict : Bool) : List Argument → Prop
  | [] => True
  | a :: r => a.WellFormed strict ∧ FunctionQuery.ArgumentsWellFormed strict r

def Argument.WellFormed (strict : Bool) : Argument → Prop
  | .value v => v ≠ .null
  | .field f => f.IsNamed
  | .function f => f.WellFormed strict
  | .criteria n => n.WellFormed strict
  | .query { criteria := n, .. } => n.WellFormed strict

/-- The payload is null, or it fits; a function is never null. -/
def Predicate.WellFormed (strict : Bool) (field : Option Field) : Predicate → Prop
  | ⟨key, .function f⟩ =>
    (Payload.function f).Fits field (key.bind (·.operation?)) ∧ f.WellFormed strict
  | ⟨key, payload⟩ => payload.isNull = true ∨ payload.Fits field (key.bind (·.operation?))

def Criteria.WellFormed (strict : Bool) : Criteria → Prop
  | ⟨field, predicates, _, boost⟩ =>
    (∀ x ∈ boost, x.IsMagnitude) ∧ (∀ p ∈ predicates, p.payload.Bounded) ∧
      (∀ f ∈ field, f.IsNamed) ∧ Criteria.PredicatesWellFormed strict field predicates

def Criteria.PredicatesWellFormed (strict : Bool) (field : Option Field) : List Predicate → Prop
  | [] => True
  | p :: r => p.WellFormed strict field ∧ Criteria.PredicatesWellFormed strict field r

/-- Every criteria in the tree is well-formed, also one that would be left out. -/
def Node.WellFormed (strict : Bool) : Node → Prop
  | .criteria c => c.WellFormed strict
  | .raw _ => True
  | .group g => g.WellFormed strict

def ClauseGroup.WellFormed (strict : Bool) : ClauseGroup → Prop
  | ⟨clauses, _, _⟩ => ClauseGroup.ClausesWellFormed strict clauses

def ClauseGroup.ClausesWellFormed (strict : Bool) : List Clause → Prop
  | [] => True
  | ⟨_, node⟩ :: r => node.WellFormed strict ∧ ClauseGroup.ClausesWellFormed strict r

end

mutual

/-- A page has rows, and grouping is bounded. -/
def Query.Bounded : Query → Prop
  | { rows := rows, groupOptions := options, .. } =>
    (∀ n ∈ rows, n ≠ 0) ∧ Query.GroupBounded options

def Query.GroupBounded : Option GroupOptions → Prop
  | none => True
  | some g => g.Bounded

/-- A group shows all documents, which is -1, or at least none; the cache takes a hundred percent
at most; and the queries to group by are bounded. -/
def GroupOptions.Bounded : GroupOptions → Prop
  | { limit := limit, cachePercent := percent, queries := queries, .. } =>
    (∀ n ∈ limit, -1 ≤ n) ∧ percent ≤ 100 ∧ GroupOptions.QueriesBounded queries

def GroupOptions.QueriesBounded : List Query → Prop
  | [] => True
  | q :: r => q.Bounded ∧ GroupOptions.QueriesBounded r

end

/-! ## Options that name something -/

/-- There is a field, a function or a query to group by. -/
def GroupOptions.NamesAny (g : GroupOptions) : Prop :=
  g.fields ≠ [] ∨ g.functions ≠ [] ∨ g.queries ≠ []

/-- There is a field or a query to count. -/
def FacetOptions.NamesAny (o : FacetOptions) : Prop :=
  o.fields ≠ [] ∨ o.queries ≠ []

theorem GroupOptions.hasGroups_iff {g : GroupOptions} : g.hasGroups = true ↔ g.NamesAny := by
  simp only [hasGroups, NamesAny, Bool.not_eq_true', Bool.and_eq_false_iff,
    List.isEmpty_eq_false_iff, or_assoc]

theorem FacetOptions.hasFacets_iff {o : FacetOptions} : o.hasFacets = true ↔ o.NamesAny := by
  simp only [hasFacets, NamesAny, Bool.not_eq_true', Bool.and_eq_false_iff,
    List.isEmpty_eq_false_iff]

/-- Without anything to count there is no query to count. -/
theorem FacetOptions.queries_eq_nil {o : FacetOptions} (h : o.hasFacets = false) :
    o.queries = [] := by
  refine Classical.not_not.mp fun hqueries => Bool.false_ne_true ?_
  rw [← h, hasFacets_iff]
  exact .inr hqueries

/-! ## Members of lists -/

/-- A predicate on lists that asks one thing of every item. -/
theorem iff_forall_mem_of_cons {α : Type} {P : α → Prop} {L : List α → Prop} (hnil : L [] ↔ True)
    (hcons : ∀ a r, L (a :: r) ↔ P a ∧ L r) (l : List α) : L l ↔ ∀ a ∈ l, P a := by
  induction l with
  | nil => exact hnil.trans ⟨fun _ => List.forall_mem_nil _, fun _ => trivial⟩
  | cons a r ih => rw [hcons, ih, List.forall_mem_cons]

theorem Criteria.predicatesWellFormed_iff {strict : Bool} {field : Option Field}
    {l : List Predicate} :
    Criteria.PredicatesWellFormed strict field l ↔ ∀ p ∈ l, p.WellFormed strict field :=
  iff_forall_mem_of_cons .rfl (fun _ _ => .rfl) l

theorem ClauseGroup.clausesWellFormed_iff {strict : Bool} {l : List Clause} :
    ClauseGroup.ClausesWellFormed strict l ↔ ∀ c ∈ l, c.node.WellFormed strict :=
  iff_forall_mem_of_cons .rfl (fun ⟨_, _⟩ _ => .rfl) l

theorem FunctionQuery.argumentsWellFormed_iff {strict : Bool} {l : List Argument} :
    FunctionQuery.ArgumentsWellFormed strict l ↔ ∀ a ∈ l, a.WellFormed strict :=
  iff_forall_mem_of_cons .rfl (fun _ _ => .rfl) l

theorem FunctionQuery.wellFormed_iff {strict : Bool} {f : FunctionQuery} :
    f.WellFormed strict ↔ isBlank f.operation = false ∧
      (strict = true → Arity.Permits f.operation f.args.length) ∧
        ∀ a ∈ f.args, a.WellFormed strict := by
  obtain ⟨operation, _ | arguments⟩ := f
  · rw [FunctionQuery.WellFormed]
    exact and_congr_right fun _ => (and_iff_left (List.forall_mem_nil _)).symm
  · rw [FunctionQuery.WellFormed, FunctionQuery.argumentsWellFormed_iff]
    rfl

theorem Argument.wellFormed_query_iff {strict : Bool} {q : Query} :
    (Argument.query q).WellFormed strict ↔ q.criteria.WellFormed strict := by
  obtain ⟨n, _, _, _, _, _, _, _, _, _, _, _, _⟩ := q
  rw [Argument.WellFormed]

theorem GroupOptions.queriesBounded_iff {l : List Query} :
    GroupOptions.QueriesBounded l ↔ ∀ q ∈ l, q.Bounded :=
  iff_forall_mem_of_cons .rfl (fun _ _ => .rfl) l

/-! ## Checks of ranges -/

theorem Field.accepts_check (f : Field) : Accepts f.IsNamed f.check := by
  have h : Accepts _ f.check := Accepts.ite rfl
  exact h.congr (Bool.not_eq_true _ ▸ .rfl)

theorem accepts_checkBoost (x : Single) : Accepts x.IsMagnitude (checkBoost x) := by
  have h : Accepts _ (checkBoost x) := Accepts.ite rfl
  refine h.congr ?_
  simp [Floating.IsMagnitude]

theorem accepts_checkSimilarity (x : Single) : Accepts x.IsFraction (checkSimilarity x) := by
  have hfraction : x.IsFraction ↔ (!x.isBelowZero && x.isAtMostOne) = true := by
    simp [Floating.IsFraction]
  rw [hfraction]
  unfold checkSimilarity
  split
  · exact .ok ‹_› ()
  · exact .error ‹_› rfl

theorem accepts_checkSlop (slop : UInt32) : Accepts (slop ≠ 0) (checkSlop slop) :=
  Accepts.ite rfl

theorem accepts_checkDistance (d : Distance) :
    Accepts d.value.IsMagnitude (checkDistance d) := by
  have h : Accepts _ (checkDistance d) := Accepts.ite rfl
  refine h.congr ?_
  simp [Floating.IsMagnitude]

theorem accepts_checkRows (rows : UInt32) : Accepts (rows ≠ 0) (checkRows rows) :=
  Accepts.ite rfl

theorem accepts_checkGroupLimit (limit : Int32) :
    Accepts (-1 ≤ limit) (checkGroupLimit limit) := by
  have h : Accepts _ (checkGroupLimit limit) := Accepts.ite rfl
  exact h.congr Int32.not_lt

theorem accepts_checkCachePercent (percent : UInt8) :
    Accepts (percent ≤ 100) (checkCachePercent percent) := by
  have h : Accepts _ (checkCachePercent percent) := Accepts.ite rfl
  exact h.congr UInt8.not_lt

theorem Payload.accepts_check (p : Payload) : Accepts p.Bounded p.check := by
  cases p with
  | fuzzy term similarity =>
    cases similarity with
    | none => exact .always ()
    | some x => exact accepts_checkSimilarity x
  | sloppy phrase slop => exact accepts_checkSlop slop
  | geo shape =>
    cases shape with
    | circle center distance => exact accepts_checkDistance distance
    | box bounds => exact .always ()
  | null => exact .always ()
  | single v => exact .always ()
  | range r => exact .always ()
  | function f => exact .always ()

theorem Criteria.accepts_check (c : Criteria) :
    Accepts ((∀ x ∈ c.boost, x.IsMagnitude) ∧ ∀ p ∈ c.predicates, p.payload.Bounded) c.check := by
  obtain ⟨field, predicates, negating, boost⟩ := c
  have hpayloads : Accepts (∀ p ∈ predicates, p.payload.Bounded)
      (predicates.forM fun p => p.payload.check) :=
    .forM fun p _ => p.payload.accepts_check
  cases boost with
  | none => exact hpayloads.none
  | some x => exact ((accepts_checkBoost x).bind fun _ _ => hpayloads).some

theorem Arity.accepts_check (operation : String) (a : Arity) (count : Nat) :
    Accepts (a.Allows count) (a.check operation count) := by
  unfold Arity.check Arity.Allows
  by_cases hleast : count < a.least
  · rw [if_pos hleast]
    exact .error (fun h => absurd h.1 (by omega)) rfl
  · rw [if_neg hleast]
    cases hmost : a.most with
    | none => exact .ok ⟨by omega, nofun⟩ ()
    | some most =>
      by_cases hcount : most < count
      · simp only [hcount, if_true]
        exact .error (fun h => absurd (h.2 most rfl) (by omega)) rfl
      · simp only [hcount, if_false]
        refine .ok ⟨by omega, fun n hn => ?_⟩ ()
        cases hn
        omega

theorem FunctionQuery.accepts_check (f : FunctionQuery) :
    Accepts (isBlank f.operation = false) f.check := by
  have h : Accepts _ f.check := Accepts.ite rfl
  exact h.congr (Bool.not_eq_true _ ▸ .rfl)

theorem FunctionQuery.accepts_checkArity (f : FunctionQuery) :
    Accepts (Arity.Permits f.operation f.args.length) f.checkArity := by
  unfold FunctionQuery.checkArity Arity.Permits
  cases Arity.of? f.operation with
  | none => exact .ok nofun ()
  | some a =>
    have hsome := forall_mem_some_iff (P := (Arity.Allows · f.args.length)) (a := a)
    exact (a.accepts_check f.operation f.args.length).congr hsome.symm

mutual

/-- Queries are checked down to the queries that the queries to group by group by. -/
theorem Query.accepts_check : ∀ q : Query, Accepts q.Bounded q.check
  | ⟨_, _, _, _, _, _, rows, options, _, _, _, _, _⟩ => by
    simp only [Query.check, Query.Bounded]
    have hgroup := Query.accepts_checkGroupOptions options
    cases rows with
    | none => exact hgroup.none
    | some n => exact ((accepts_checkRows n).bind fun _ _ => hgroup).some (P := (· ≠ 0))

theorem Query.accepts_checkGroupOptions : ∀ options : Option GroupOptions,
    Accepts (Query.GroupBounded options) (Query.checkGroupOptions options)
  | none => .always ()
  | some g => by
    rw [Query.GroupBounded, Query.checkGroupOptions]
    exact GroupOptions.accepts_check g

theorem GroupOptions.accepts_check : ∀ g : GroupOptions, Accepts g.Bounded g.check
  | ⟨_, _, queries, limit, _, _, _, _, _, _, percent⟩ => by
    simp only [GroupOptions.check, GroupOptions.Bounded]
    have hrest := (accepts_checkCachePercent percent).bind fun _ _ =>
      GroupOptions.accepts_checkQueries queries
    cases limit with
    | none => exact hrest.none
    | some n => exact ((accepts_checkGroupLimit n).bind fun _ _ => hrest).some

theorem GroupOptions.accepts_checkQueries : ∀ queries : List Query,
    Accepts (GroupOptions.QueriesBounded queries) (GroupOptions.checkQueries queries)
  | [] => .always ()
  | q :: r => by
    rw [GroupOptions.QueriesBounded, GroupOptions.checkQueries]
    exact (Query.accepts_check q).bind fun _ _ => GroupOptions.accepts_checkQueries r

end

end SolrRequest

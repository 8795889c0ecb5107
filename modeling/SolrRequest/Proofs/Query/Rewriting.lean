import SolrRequest.Query.Basic

/-!
# Rewriting the leaves of queries

A `Rewriting` says what becomes of the fields, of the values given to functions, and of the payloads
of predicates. `Query.rewrite` and its companions apply it everywhere in a query: in the tree of
criteria, in functions at any depth, in the nodes and queries given to functions, and in the
options. Nothing else changes. A rewriting that leaves what it has changed alone
(`Rewriting.Stable`) does the same when it is applied twice (`Query.rewrite_rewrite`).
-/

namespace SolrRequest

/-- What becomes of the leaves of a query. A payload may be changed according to the key of its
predicate; payloads that hold a function are left to the leaves of that function. -/
structure Rewriting where
  field : Field → Field
  value : Value → Value
  payload : Option PredicateKey → Payload → Payload

/-- Changes the values in a payload. -/
def Payload.mapValues (f : Value → Value) : Payload → Payload
  | .single v => .single (f v)
  | .range r => .range { r with lower := r.lower.map f, upper := r.upper.map f }
  | .fuzzy term similarity => .fuzzy (f term) similarity
  | .sloppy phrase slop => .sloppy (f phrase) slop
  | p => p

/-- A sort by the rewritten field. -/
def SortOrder.rewrite (w : Rewriting) (o : SortOrder) : SortOrder :=
  ⟨w.field o.field, o.direction⟩

mutual

def FunctionQuery.rewrite (w : Rewriting) : FunctionQuery → FunctionQuery
  | ⟨operation, none⟩ => ⟨operation, none⟩
  | ⟨operation, some arguments⟩ => ⟨operation, some (FunctionQuery.rewriteArguments w arguments)⟩

def FunctionQuery.rewriteArguments (w : Rewriting) : List Argument → List Argument
  | [] => []
  | a :: r => a.rewrite w :: FunctionQuery.rewriteArguments w r

def Argument.rewrite (w : Rewriting) : Argument → Argument
  | .value v => .value (w.value v)
  | .field f => .field (w.field f)
  | .function f => .function (f.rewrite w)
  | .criteria n => .criteria (n.rewrite w)
  | .query q => .query (q.rewrite w)

def Predicate.rewrite (w : Rewriting) : Predicate → Predicate
  | ⟨key, .function f⟩ => ⟨key, .function (f.rewrite w)⟩
  | ⟨key, payload⟩ => ⟨key, w.payload key payload⟩

def Criteria.rewrite (w : Rewriting) : Criteria → Criteria
  | ⟨field, predicates, negating, boost⟩ =>
    ⟨field.map w.field, Criteria.rewritePredicates w predicates, negating, boost⟩

def Criteria.rewritePredicates (w : Rewriting) : List Predicate → List Predicate
  | [] => []
  | p :: r => p.rewrite w :: Criteria.rewritePredicates w r

def Node.rewrite (w : Rewriting) : Node → Node
  | .criteria c => .criteria (c.rewrite w)
  | .raw query => .raw query
  | .group g => .group (g.rewrite w)

def ClauseGroup.rewrite (w : Rewriting) : ClauseGroup → ClauseGroup
  | ⟨clauses, negating, chained⟩ => ⟨ClauseGroup.rewriteClauses w clauses, negating, chained⟩

def ClauseGroup.rewriteClauses (w : Rewriting) : List Clause → List Clause
  | [] => []
  | c :: r => c.rewrite w :: ClauseGroup.rewriteClauses w r

def Clause.rewrite (w : Rewriting) : Clause → Clause
  | ⟨junction, node⟩ => ⟨junction, node.rewrite w⟩

def CalculatedField.rewrite (w : Rewriting) : CalculatedField → CalculatedField
  | ⟨name, function⟩ => ⟨name, function.rewrite w⟩

def GroupOptions.rewrite (w : Rewriting) : GroupOptions → GroupOptions
  | ⟨fields, functions, queries, limit, offset, sort, totalCount, main, facets, truncate,
      cachePercent⟩ =>
    ⟨fields.map w.field, GroupOptions.rewriteFunctions w functions,
      GroupOptions.rewriteQueries w queries, limit, offset, sort.map (SortOrder.rewrite w),
      totalCount, main, facets, truncate, cachePercent⟩

def GroupOptions.rewriteFunctions (w : Rewriting) : List FunctionQuery → List FunctionQuery
  | [] => []
  | f :: r => f.rewrite w :: GroupOptions.rewriteFunctions w r

def GroupOptions.rewriteQueries (w : Rewriting) : List Query → List Query
  | [] => []
  | q :: r => q.rewrite w :: GroupOptions.rewriteQueries w r

def FacetOptions.rewrite (w : Rewriting) : FacetOptions → FacetOptions
  | ⟨fields, queries, limit, minCount, sort, startingWith, offset, missing⟩ =>
    ⟨fields.map w.field, Query.rewriteNodes w queries, limit, minCount, sort, startingWith, offset,
      missing⟩

def Query.rewriteNodes (w : Rewriting) : List Node → List Node
  | [] => []
  | n :: r => n.rewrite w :: Query.rewriteNodes w r

def Query.rewriteCalculated (w : Rewriting) : List CalculatedField → List CalculatedField
  | [] => []
  | c :: r => c.rewrite w :: Query.rewriteCalculated w r

def Query.rewriteGroup (w : Rewriting) : Option GroupOptions → Option GroupOptions
  | none => none
  | some g => some (g.rewrite w)

def Query.rewriteFacet (w : Rewriting) : Option FacetOptions → Option FacetOptions
  | none => none
  | some o => some (o.rewrite w)

def Query.rewrite (w : Rewriting) : Query → Query
  | ⟨criteria, filters, projection, calculated, sort, offset, rows, groupOptions, facetOptions,
      operator, defType, handler, timeAllowed⟩ =>
    ⟨criteria.rewrite w, Query.rewriteNodes w filters, projection.map w.field,
      Query.rewriteCalculated w calculated, sort.map (SortOrder.rewrite w), offset, rows,
      Query.rewriteGroup w groupOptions, Query.rewriteFacet w facetOptions, operator, defType,
      handler, timeAllowed⟩

end

/-! ## Lists of parts -/

/-- A function on lists that does one thing to every item. -/
theorem eq_map_of_cons {α β : Type} {f : α → β} {g : List α → List β} (hnil : g [] = [])
    (hcons : ∀ a r, g (a :: r) = f a :: g r) (l : List α) : g l = l.map f := by
  induction l with
  | nil => exact hnil
  | cons a r ih => rw [hcons, ih, List.map_cons]

theorem FunctionQuery.rewriteArguments_eq_map (w : Rewriting) (l : List Argument) :
    FunctionQuery.rewriteArguments w l = l.map (Argument.rewrite w) :=
  eq_map_of_cons rfl (fun _ _ => rfl) l

theorem GroupOptions.rewriteFunctions_eq_map (w : Rewriting) (l : List FunctionQuery) :
    GroupOptions.rewriteFunctions w l = l.map (FunctionQuery.rewrite w) :=
  eq_map_of_cons rfl (fun _ _ => rfl) l

theorem GroupOptions.rewriteQueries_eq_map (w : Rewriting) (l : List Query) :
    GroupOptions.rewriteQueries w l = l.map (Query.rewrite w) :=
  eq_map_of_cons rfl (fun _ _ => rfl) l

theorem Query.rewriteNodes_eq_map (w : Rewriting) (l : List Node) :
    Query.rewriteNodes w l = l.map (Node.rewrite w) :=
  eq_map_of_cons rfl (fun _ _ => rfl) l

theorem Query.rewriteCalculated_eq_map (w : Rewriting) (l : List CalculatedField) :
    Query.rewriteCalculated w l = l.map (CalculatedField.rewrite w) :=
  eq_map_of_cons rfl (fun _ _ => rfl) l

/-! ## Rewriting twice -/

/-- A rewriting whose changes stay when it is applied again. -/
structure Rewriting.Stable (w : Rewriting) : Prop where
  field : ∀ f, w.field (w.field f) = w.field f
  value : ∀ v, w.value (w.value v) = w.value v
  shape : ∀ key p, (w.payload key p).shape = p.shape
  payload : ∀ key p, w.payload key (w.payload key p) = w.payload key p

theorem map_map_eq {α : Type} {f : α → α} (h : ∀ a, f (f a) = f a) (l : List α) :
    (l.map f).map f = l.map f := by
  have hcomp : f ∘ f = f := funext h
  rw [List.map_map, hcomp]

theorem Rewriting.Stable.sorting {w : Rewriting} (hw : w.Stable) (o : SortOrder) :
    (o.rewrite w).rewrite w = o.rewrite w := by
  simp only [SortOrder.rewrite, hw.field]

theorem Predicate.rewrite_eq (w : Rewriting) (key : Option PredicateKey) {p : Payload}
    (hp : p.shape ≠ "function") : (Predicate.mk key p).rewrite w = ⟨key, w.payload key p⟩ := by
  cases p with
  | function f => exact absurd rfl hp
  | _ => rfl

theorem Rewriting.Stable.predicate {w : Rewriting} (hw : w.Stable) (key : Option PredicateKey)
    {p : Payload} (hp : p.shape ≠ "function") :
    ((Predicate.mk key p).rewrite w).rewrite w = (Predicate.mk key p).rewrite w := by
  rw [Predicate.rewrite_eq w key hp,
    Predicate.rewrite_eq w key (p := w.payload key p) (by rwa [hw.shape]), hw.payload]

mutual

theorem FunctionQuery.rewrite_rewrite {w : Rewriting} (hw : w.Stable) : ∀ f : FunctionQuery,
    (f.rewrite w).rewrite w = f.rewrite w
  | ⟨_, none⟩ => rfl
  | ⟨_, some arguments⟩ => by
    simp only [FunctionQuery.rewrite, FunctionQuery.rewriteArguments_twice hw arguments]

theorem FunctionQuery.rewriteArguments_twice {w : Rewriting} (hw : w.Stable) :
    ∀ l : List Argument, FunctionQuery.rewriteArguments w (FunctionQuery.rewriteArguments w l) =
      FunctionQuery.rewriteArguments w l
  | [] => rfl
  | a :: r => by
    simp only [FunctionQuery.rewriteArguments, Argument.rewrite_rewrite hw a,
      FunctionQuery.rewriteArguments_twice hw r]

theorem Argument.rewrite_rewrite {w : Rewriting} (hw : w.Stable) : ∀ a : Argument,
    (a.rewrite w).rewrite w = a.rewrite w
  | .value v => by simp only [Argument.rewrite, hw.value]
  | .field f => by simp only [Argument.rewrite, hw.field]
  | .function f => by simp only [Argument.rewrite, FunctionQuery.rewrite_rewrite hw f]
  | .criteria n => by simp only [Argument.rewrite, Node.rewrite_rewrite hw n]
  | .query q => by simp only [Argument.rewrite, Query.rewrite_rewrite hw q]

theorem Predicate.rewrite_rewrite {w : Rewriting} (hw : w.Stable) : ∀ p : Predicate,
    (p.rewrite w).rewrite w = p.rewrite w
  | ⟨key, .function f⟩ => by
    simp only [Predicate.rewrite, FunctionQuery.rewrite_rewrite hw f]
  | ⟨key, .null⟩ => hw.predicate key (by simp [Payload.shape])
  | ⟨key, .single v⟩ => hw.predicate key (by simp [Payload.shape])
  | ⟨key, .range r⟩ => hw.predicate key (by simp [Payload.shape])
  | ⟨key, .geo g⟩ => hw.predicate key (by simp [Payload.shape])
  | ⟨key, .fuzzy term x⟩ => hw.predicate key (by simp [Payload.shape])
  | ⟨key, .sloppy phrase n⟩ => hw.predicate key (by simp [Payload.shape])

theorem Criteria.rewrite_rewrite {w : Rewriting} (hw : w.Stable) : ∀ c : Criteria,
    (c.rewrite w).rewrite w = c.rewrite w
  | ⟨field, predicates, _, _⟩ => by
    have hfield : (field.map w.field).map w.field = field.map w.field := by
      cases field with
      | none => rfl
      | some f => exact congrArg some (hw.field f)
    simp only [Criteria.rewrite, hfield, Criteria.rewritePredicates_twice hw predicates]

theorem Criteria.rewritePredicates_twice {w : Rewriting} (hw : w.Stable) : ∀ l : List Predicate,
    Criteria.rewritePredicates w (Criteria.rewritePredicates w l) = Criteria.rewritePredicates w l
  | [] => rfl
  | p :: r => by
    simp only [Criteria.rewritePredicates, Predicate.rewrite_rewrite hw p,
      Criteria.rewritePredicates_twice hw r]

theorem Node.rewrite_rewrite {w : Rewriting} (hw : w.Stable) : ∀ n : Node,
    (n.rewrite w).rewrite w = n.rewrite w
  | .criteria c => by simp only [Node.rewrite, Criteria.rewrite_rewrite hw c]
  | .raw _ => rfl
  | .group g => by simp only [Node.rewrite, ClauseGroup.rewrite_rewrite hw g]

theorem ClauseGroup.rewrite_rewrite {w : Rewriting} (hw : w.Stable) : ∀ g : ClauseGroup,
    (g.rewrite w).rewrite w = g.rewrite w
  | ⟨clauses, _, _⟩ => by
    simp only [ClauseGroup.rewrite, ClauseGroup.rewriteClauses_twice hw clauses]

theorem ClauseGroup.rewriteClauses_twice {w : Rewriting} (hw : w.Stable) : ∀ l : List Clause,
    ClauseGroup.rewriteClauses w (ClauseGroup.rewriteClauses w l) = ClauseGroup.rewriteClauses w l
  | [] => rfl
  | ⟨junction, node⟩ :: r => by
    simp only [ClauseGroup.rewriteClauses, Clause.rewrite, Node.rewrite_rewrite hw node,
      ClauseGroup.rewriteClauses_twice hw r]

theorem CalculatedField.rewrite_rewrite {w : Rewriting} (hw : w.Stable) : ∀ c : CalculatedField,
    (c.rewrite w).rewrite w = c.rewrite w
  | ⟨_, function⟩ => by
    simp only [CalculatedField.rewrite, FunctionQuery.rewrite_rewrite hw function]

theorem GroupOptions.rewrite_rewrite {w : Rewriting} (hw : w.Stable) : ∀ g : GroupOptions,
    (g.rewrite w).rewrite w = g.rewrite w
  | ⟨fields, functions, queries, _, _, sort, _, _, _, _, _⟩ => by
    simp only [GroupOptions.rewrite, map_map_eq hw.field, map_map_eq hw.sorting,
      GroupOptions.rewriteFunctions_twice hw functions,
      GroupOptions.rewriteQueries_twice hw queries]

theorem GroupOptions.rewriteFunctions_twice {w : Rewriting} (hw : w.Stable) :
    ∀ l : List FunctionQuery,
    GroupOptions.rewriteFunctions w (GroupOptions.rewriteFunctions w l) =
      GroupOptions.rewriteFunctions w l
  | [] => rfl
  | f :: r => by
    simp only [GroupOptions.rewriteFunctions, FunctionQuery.rewrite_rewrite hw f,
      GroupOptions.rewriteFunctions_twice hw r]

theorem GroupOptions.rewriteQueries_twice {w : Rewriting} (hw : w.Stable) : ∀ l : List Query,
    GroupOptions.rewriteQueries w (GroupOptions.rewriteQueries w l) =
      GroupOptions.rewriteQueries w l
  | [] => rfl
  | q :: r => by
    simp only [GroupOptions.rewriteQueries, Query.rewrite_rewrite hw q,
      GroupOptions.rewriteQueries_twice hw r]

theorem FacetOptions.rewrite_rewrite {w : Rewriting} (hw : w.Stable) : ∀ o : FacetOptions,
    (o.rewrite w).rewrite w = o.rewrite w
  | ⟨_, queries, _, _, _, _, _, _⟩ => by
    simp only [FacetOptions.rewrite, map_map_eq hw.field, Query.rewriteNodes_twice hw queries]

theorem Query.rewriteNodes_twice {w : Rewriting} (hw : w.Stable) : ∀ l : List Node,
    Query.rewriteNodes w (Query.rewriteNodes w l) = Query.rewriteNodes w l
  | [] => rfl
  | n :: r => by
    simp only [Query.rewriteNodes, Node.rewrite_rewrite hw n, Query.rewriteNodes_twice hw r]

theorem Query.rewriteCalculated_twice {w : Rewriting} (hw : w.Stable) :
    ∀ l : List CalculatedField,
    Query.rewriteCalculated w (Query.rewriteCalculated w l) = Query.rewriteCalculated w l
  | [] => rfl
  | c :: r => by
    simp only [Query.rewriteCalculated, CalculatedField.rewrite_rewrite hw c,
      Query.rewriteCalculated_twice hw r]

theorem Query.rewriteGroup_twice {w : Rewriting} (hw : w.Stable) : ∀ o : Option GroupOptions,
    Query.rewriteGroup w (Query.rewriteGroup w o) = Query.rewriteGroup w o
  | none => rfl
  | some g => by simp only [Query.rewriteGroup, GroupOptions.rewrite_rewrite hw g]

theorem Query.rewriteFacet_twice {w : Rewriting} (hw : w.Stable) : ∀ o : Option FacetOptions,
    Query.rewriteFacet w (Query.rewriteFacet w o) = Query.rewriteFacet w o
  | none => rfl
  | some o => by simp only [Query.rewriteFacet, FacetOptions.rewrite_rewrite hw o]

/-- A stable rewriting changes a query once only. -/
theorem Query.rewrite_rewrite {w : Rewriting} (hw : w.Stable) : ∀ q : Query,
    (q.rewrite w).rewrite w = q.rewrite w
  | ⟨criteria, filters, _, calculated, _, _, _, groupOptions, facetOptions, _, _, _, _⟩ => by
    simp only [Query.rewrite, Node.rewrite_rewrite hw criteria, Query.rewriteNodes_twice hw filters,
      map_map_eq hw.field, map_map_eq hw.sorting, Query.rewriteCalculated_twice hw calculated,
      Query.rewriteGroup_twice hw groupOptions, Query.rewriteFacet_twice hw facetOptions]

end

end SolrRequest

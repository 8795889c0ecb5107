import SolrRequest.Proofs.Fragment.Strictness
import SolrRequest.Proofs.Request.Acceptance

/-!
# Strict compilers only reject

`Compiler.compile_strict`: a strict compiler makes of a query what a lenient one makes of it, or
fails. It fails in addition exactly where one of the function queries that the request comes to
(`Query.calls`) has a number of arguments that its operation does not take.
-/

namespace SolrRequest

/-! ## Function queries in requests -/

/-- The function queries to group by, and those in the criteria of queries to group by. -/
def GroupOptions.calls (g : GroupOptions) : List FunctionQuery :=
  g.functions.flatMap (·.calls) ++ g.queries.flatMap (·.criteria.calls)

def FacetOptions.calls (o : FacetOptions) : List FunctionQuery :=
  o.queries.flatMap (·.calls)

/-- The function queries that writing a section comes to. -/
def Section.calls (q : Query) : Section → List FunctionQuery
  | .query => q.criteria.calls
  | .filters => q.filters.flatMap (·.calls)
  | .fields => q.calculated.flatMap (·.function.calls)
  | .group => q.groupOptions.toList.flatMap (·.calls)
  | .facet => q.facetOptions.toList.flatMap (·.calls)
  | .sort | .start | .rows | .operator | .defType | .handler | .timeAllowed => []

/-- The function queries that compiling a query comes to. -/
def Query.calls (q : Query) : List FunctionQuery :=
  q.criteria.calls ++ q.filters.flatMap (·.calls) ++ q.calculated.flatMap (·.function.calls) ++
    q.groupOptions.toList.flatMap (·.calls) ++ q.facetOptions.toList.flatMap (·.calls)

theorem allPermitted_flatMap {α : Type} {l : List α} {calls : α → List FunctionQuery} :
    AllPermitted (l.flatMap calls) ↔ ∀ a ∈ l, AllPermitted (calls a) := by
  simp only [AllPermitted, List.mem_flatMap]
  exact ⟨fun h a ha f hf => h f ⟨a, ha, hf⟩, fun h f ⟨a, ha, hf⟩ => h a ha f hf⟩

theorem Query.allPermitted_calls_iff {q : Query} :
    AllPermitted q.calls ↔ ∀ part ∈ Section.all, AllPermitted (part.calls q) := by
  simp [Query.calls, Section.all, Section.calls, allPermitted_append, allPermitted_nil]

/-! ## Sections -/

theorem strict_filterEntries (s : Scope) (filters : List Node) :
    Restricts (AllPermitted (filters.flatMap (·.calls)))
      (filterEntries (s.withStrict false) filters) (filterEntries (s.withStrict true) filters) :=
  ((Restricts.mapM fun n _ => n.strict_fragment s false).bind_ok _).congr allPermitted_flatMap.symm

theorem strict_fieldEntries (s : Scope) (projection : List Field)
    (calculated : List CalculatedField) :
    Restricts (AllPermitted (calculated.flatMap (·.function.calls)))
      (fieldEntries (s.withStrict false) projection calculated)
      (fieldEntries (s.withStrict true) projection calculated) := by
  refine .bind_left _ fun _ => ?_
  exact ((Restricts.mapM fun c _ => CalculatedField.strict_fragment s c).bind_ok _).congr
    allPermitted_flatMap.symm

theorem FunctionQuery.strict_groupText (s : Scope) (f : FunctionQuery) :
    Restricts (AllPermitted f.calls) (f.groupText (s.withStrict false))
      (f.groupText (s.withStrict true)) :=
  ((f.strict_fragment s 0).bind fun text => .refl trivial (groupName text)).congr
    (and_true _).to_iff

theorem Query.strict_groupText (s : Scope) (q : Query) :
    Restricts (AllPermitted q.criteria.calls) (q.groupText (s.withStrict false))
      (q.groupText (s.withStrict true)) :=
  ((q.criteria.strict_queryText s).bind fun text => .refl trivial (groupName text)).congr
    (and_true _).to_iff

theorem GroupOptions.strict_texts (s : Scope) (g : GroupOptions) :
    Restricts (AllPermitted g.calls) (g.texts (s.withStrict false))
      (g.texts (s.withStrict true)) := by
  unfold GroupOptions.texts
  by_cases hgroups : g.hasGroups = true
  · simp only [hgroups, Bool.not_true, Bool.false_eq_true, if_false]
    have hsteps : Restricts _ _ _ := .bind_left (g.fields.mapM s.fieldName) fun fields =>
      (Restricts.mapM fun f (_ : f ∈ g.functions) => f.strict_groupText s).bind fun functions =>
        (Restricts.mapM fun q (_ : q ∈ g.queries) => q.strict_groupText s).bind_ok
          (GroupTexts.mk fields functions)
    refine hsteps.congr ?_
    rw [GroupOptions.calls, allPermitted_append, allPermitted_flatMap, allPermitted_flatMap]
  · rw [Bool.not_eq_true] at hgroups
    simp only [hgroups, Bool.not_false, if_true]
    exact .error _ _

theorem GroupOptions.strict_entries (s : Scope) (g : GroupOptions) :
    Restricts (AllPermitted g.calls) (g.entries (s.withStrict false))
      (g.entries (s.withStrict true)) :=
  ((g.strict_texts s).bind fun _ => .refl trivial _).congr (and_true _).to_iff

theorem GroupOptions.strict_named (s : Scope) (g : GroupOptions) :
    Restricts (AllPermitted g.calls) (g.named (s.withStrict false)) (g.named (s.withStrict true)) :=
  (g.strict_texts s).bind_ok _

/-- Without anything to count there is no facet query either. -/
theorem FacetOptions.strict_entries (s : Scope) (o : FacetOptions) :
    Restricts (AllPermitted o.calls) (o.entries (s.withStrict false))
      (o.entries (s.withStrict true)) := by
  unfold FacetOptions.entries
  by_cases hfacets : o.hasFacets = true
  · simp only [hfacets, Bool.not_true, Bool.false_eq_true, if_false]
    refine .bind_left _ fun fields => ?_
    exact ((Restricts.mapM fun n _ => Node.strict_queryText s n).bind_ok _).congr
      allPermitted_flatMap.symm
  · rw [Bool.not_eq_true] at hfacets
    simp only [hfacets, Bool.not_false, if_true]
    rw [FacetOptions.calls, FacetOptions.queries_eq_nil hfacets]
    exact .refl allPermitted_nil _

theorem Section.strict_entries (s : Scope) (q : Query) (part : Section) :
    Restricts (AllPermitted (part.calls q)) (part.entries (s.withStrict false) q)
      (part.entries (s.withStrict true) q) := by
  cases part with
  | query => exact (q.criteria.strict_queryText s).bind_ok _
  | filters => exact strict_filterEntries s q.filters
  | fields => exact strict_fieldEntries s q.projection q.calculated
  | group =>
    unfold Section.entries Section.calls
    cases q.groupOptions with
    | none => exact .refl allPermitted_nil _
    | some g => exact (g.strict_entries s).congr (by simp)
  | facet =>
    unfold Section.entries Section.calls
    cases q.facetOptions with
    | none => exact .refl allPermitted_nil _
    | some o => exact (o.strict_entries s).congr (by simp)
  | sort | start | rows | operator | defType | handler | timeAllowed =>
    exact .refl allPermitted_nil _

theorem Query.strict_namedObjects (s : Scope) (q : Query) :
    Restricts (AllPermitted (Section.group.calls q)) (q.namedObjects (s.withStrict false))
      (q.namedObjects (s.withStrict true)) := by
  unfold Query.namedObjects Section.calls
  cases q.groupOptions with
  | none => exact .refl allPermitted_nil _
  | some g => exact (g.strict_named s).congr (by simp)

/-! ## Requests -/

theorem Compiler.strict_compile (c : Compiler) (q : Query) (domain : Option String) :
    Restricts (AllPermitted q.calls) ((c.withStrict false).compile q domain)
      ((c.withStrict true).compile q domain) := by
  refine .bind_left q.check fun _ => ?_
  have hsteps := (Restricts.mapM fun part (_ : part ∈ Section.all) =>
    part.strict_entries ⟨c, domain⟩ q).bind fun sections =>
      (q.strict_namedObjects ⟨c, domain⟩).bind_ok fun names =>
        (⟨⟨sections.flatten⟩, ⟨q, names⟩⟩ : Request)
  refine hsteps.congr (.trans ?_ Query.allPermitted_calls_iff.symm)
  -- the names repeat texts of the group section
  exact and_iff_left_of_imp fun h => h .group (Section.mem_all .group)

/-- **Counting arguments only rejects.** What the strict compiler gives, the lenient one gives;
where the lenient one fails, the strict one fails; and where only the strict one fails, some
function query has a number of arguments that its operation does not take. -/
theorem Compiler.compile_strict (c : Compiler) (q : Query) (domain : Option String) :
    (∀ r, (c.withStrict true).compile q domain = .ok r →
        (c.withStrict false).compile q domain = .ok r) ∧
      (∀ e, (c.withStrict false).compile q domain = .error e →
        ∃ e', (c.withStrict true).compile q domain = .error e') ∧
      ∀ r, (c.withStrict false).compile q domain = .ok r →
        ((∃ e, (c.withStrict true).compile q domain = .error e) ↔
          ∃ f ∈ q.calls, ¬Arity.Permits f.operation f.args.length) := by
  have h := c.strict_compile q domain
  refine ⟨fun r => h.ok_of_ok, fun e => h.error_of_error, fun r hr => ?_⟩
  rw [h.exists_error_iff hr]
  simp only [AllPermitted, FunctionQuery.Permitted, not_forall, exists_prop]

/-- A query that shows how well a criteria matches, where a function query in the criteria has an
argument too many. -/
def scoredByRoot : Query :=
  let root : FunctionQuery := .call "sqrt" [.value (.integer 4), .value (.integer 9)]
  let score : FunctionQuery := .call "query" [.criteria (.criteria (Criteria.empty.matching root))]
  { Query.default with calculated := [⟨none, score⟩] }

/-- One query that both compilers take, one that both refuse, and one that only the strict one
refuses. -/
theorem strict_and_lenient :
    (∃ r, (Compiler.default.withStrict true).compile .default none = .ok r ∧
      (Compiler.default.withStrict false).compile .default none = .ok r) ∧
    (∃ e e', (Compiler.default.withStrict false).compile groupedByBlank none = .error e ∧
      (Compiler.default.withStrict true).compile groupedByBlank none = .error e') ∧
    (∃ r e, (Compiler.default.withStrict false).compile scoredByRoot none = .ok r ∧
      (Compiler.default.withStrict true).compile scoredByRoot none = .error e ∧
      ∃ f ∈ scoredByRoot.calls, ¬Arity.Permits f.operation f.args.length) := by
  obtain ⟨hdefault, -, -⟩ := Compiler.default.compile_strict .default none
  obtain ⟨-, hblank, -⟩ := Compiler.default.compile_strict groupedByBlank none
  obtain ⟨-, -, hroot⟩ := Compiler.default.compile_strict scoredByRoot none
  refine ⟨⟨_, rfl, hdefault _ rfl⟩, ?_, ?_⟩
  · obtain ⟨e', he'⟩ := hblank _ rfl
    exact ⟨_, e', rfl, he'⟩
  · have hrefused : (Compiler.default.withStrict true).compile scoredByRoot none =
        .error (.tooManyArguments "sqrt" 1 2) := rfl
    exact ⟨_, _, rfl, hrefused, (hroot _ rfl).mp ⟨_, hrefused⟩⟩

end SolrRequest

import SolrRequest.Proofs.Fragment.Acceptance
import SolrRequest.Proofs.Outcome
import SolrRequest.Request.Compile

/-!
# Which queries are compiled

A query is compiled exactly when it is well-formed, and any other query is refused as an invalid
argument (`Compiler.compile_accepts_exactly`).

`Query.WellFormed` gathers what the sections of a request ask for, each of its own part of the
query (`Section.accepts_entries`), together with the bounds, which reach down into the queries to
group by. Of these queries only the tree of criteria is written, so nothing else in them has to be
well-formed; but the text of the tree becomes the name of a group, which must not be blank.
-/

namespace SolrRequest

open Text

/-! ## Well-formed queries -/

/-- There is something to group by; the fields are named, the trees are well-formed, and no group
gets a blank name. -/
structure GroupOptions.WellFormed (s : Scope) (g : GroupOptions) : Prop where
  names : g.NamesAny
  fields : ∀ f ∈ g.fields, f.IsNamed
  functions : ∀ f ∈ g.functions, f.WellFormed s.compiler.configuration.strictFunctions
  queries : ∀ q ∈ g.queries, q.criteria.WellFormed s.compiler.configuration.strictFunctions ∧
    ∀ text, q.criteria.queryText s = .ok text → isBlank text = false
  sort : ∀ o ∈ g.sort, o.field.IsNamed

structure FacetOptions.WellFormed (s : Scope) (o : FacetOptions) : Prop where
  fields : ∀ f ∈ o.fields, f.IsNamed
  queries : ∀ n ∈ o.queries, n.WellFormed s.compiler.configuration.strictFunctions

/-- All that a query has to be like. The domain matters for the names of groups only. -/
structure Query.WellFormed (s : Scope) (q : Query) : Prop where
  bounded : q.Bounded
  criteria : q.criteria.WellFormed s.compiler.configuration.strictFunctions
  filters : ∀ n ∈ q.filters, n.WellFormed s.compiler.configuration.strictFunctions
  projection : ∀ f ∈ q.projection, f.IsNamed
  calculated : ∀ c ∈ q.calculated,
    c.function.WellFormed s.compiler.configuration.strictFunctions
  sort : ∀ o ∈ q.sort, o.field.IsNamed
  group : ∀ g ∈ q.groupOptions, g.WellFormed s
  facet : ∀ o ∈ q.facetOptions, o.NamesAny → o.WellFormed s

/-! ## Names of groups -/

theorem accepts_groupName (text : String) : Accepts (isBlank text = false) (groupName text) := by
  unfold groupName
  by_cases hblank : isBlank text = true
  · rw [if_pos hblank]
    refine .error (fun hname => ?_) rfl
    exact Bool.false_ne_true (hname.symm.trans hblank)
  · rw [if_neg hblank]
    exact .ok (Bool.not_eq_true _ ▸ hblank) text

/-- The prefix of a function is no white space. -/
theorem FunctionQuery.isBlank_fragment {s : Scope} {f : FunctionQuery} {text : String}
    (h : f.fragment s 0 = .ok text) : isBlank text = false := by
  obtain ⟨body, -, h⟩ := bind_eq_ok_iff.mp h
  cases h
  exact isBlank_append_left rfl body

theorem FunctionQuery.accepts_groupText (s : Scope) (f : FunctionQuery) :
    Accepts (f.WellFormed s.compiler.configuration.strictFunctions) (f.groupText s) := by
  have hname := (f.accepts_fragment s 0).bind fun text htext =>
    (accepts_groupName text).congr (iff_true_intro (f.isBlank_fragment htext))
  exact hname.congr (and_true _).to_iff

theorem Query.accepts_groupText (s : Scope) (q : Query) :
    Accepts (q.criteria.WellFormed s.compiler.configuration.strictFunctions ∧
      ∀ text, q.criteria.queryText s = .ok text → isBlank text = false) (q.groupText s) := by
  refine (q.criteria.accepts_queryText s).bind fun text htext => ?_
  refine (accepts_groupName text).congr ⟨fun hblank other hother => ?_, fun h => h text htext⟩
  rw [htext] at hother
  cases hother
  exact hblank

/-! ## Sections -/

theorem accepts_sortEntries (s : Scope) (name : String) (sort : Sorting) :
    Accepts (∀ o ∈ sort, o.field.IsNamed) (sortEntries s name sort) :=
  (Accepts.mapM fun (o : SortOrder) _ => (s.accepts_fieldName o.field).bind_ok _).bind_ok _

theorem accepts_filterEntries (s : Scope) (filters : List Node) :
    Accepts (∀ n ∈ filters, n.WellFormed s.compiler.configuration.strictFunctions)
      (filterEntries s filters) :=
  (Accepts.mapM fun n _ => n.accepts_fragment s false).bind_ok _

theorem accepts_fieldEntries (s : Scope) (projection : List Field)
    (calculated : List CalculatedField) :
    Accepts ((∀ f ∈ projection, f.IsNamed) ∧
        ∀ c ∈ calculated, c.function.WellFormed s.compiler.configuration.strictFunctions)
      (fieldEntries s projection calculated) :=
  (Accepts.mapM fun f _ => s.accepts_fieldName f).bind fun _ _ =>
    (Accepts.mapM fun (c : CalculatedField) _ => c.accepts_fragment s).bind_ok _

/-- What the texts to group by need; the sorting of groups is not among them. -/
theorem GroupOptions.accepts_texts (s : Scope) (g : GroupOptions) :
    Accepts (g.NamesAny ∧ (∀ f ∈ g.fields, f.IsNamed) ∧
        (∀ f ∈ g.functions, f.WellFormed s.compiler.configuration.strictFunctions) ∧
        ∀ q ∈ g.queries, q.criteria.WellFormed s.compiler.configuration.strictFunctions ∧
          ∀ text, q.criteria.queryText s = .ok text → isBlank text = false) (g.texts s) := by
  rw [← GroupOptions.hasGroups_iff]
  unfold GroupOptions.texts
  by_cases hgroups : g.hasGroups = true
  · simp only [hgroups, Bool.not_true, Bool.false_eq_true, if_false, true_and]
    exact (Accepts.mapM fun f _ => s.accepts_fieldName f).bind fun fields _ =>
      (Accepts.mapM fun f _ => f.accepts_groupText s).bind fun functions _ =>
        (Accepts.mapM fun q _ => q.accepts_groupText s).bind_ok (GroupTexts.mk fields functions)
  · rw [Bool.not_eq_true] at hgroups
    simp only [hgroups, Bool.not_false, if_true]
    exact .error (fun h => Bool.false_ne_true h.1) rfl

theorem GroupOptions.accepts_entries (s : Scope) (g : GroupOptions) :
    Accepts (g.WellFormed s) (g.entries s) := by
  refine ((g.accepts_texts s).bind fun texts _ =>
    (accepts_sortEntries s "group.sort" g.sort).bind_ok _).congr ⟨?_, ?_⟩
  · rintro ⟨⟨hgroups, hfields, hfunctions, hqueries⟩, hsort⟩
    exact ⟨hgroups, hfields, hfunctions, hqueries, hsort⟩
  · rintro ⟨hgroups, hfields, hfunctions, hqueries, hsort⟩
    exact ⟨⟨hgroups, hfields, hfunctions, hqueries⟩, hsort⟩

theorem FacetOptions.accepts_entries (s : Scope) (o : FacetOptions) :
    Accepts (o.NamesAny → o.WellFormed s) (o.entries s) := by
  rw [← FacetOptions.hasFacets_iff]
  unfold FacetOptions.entries
  by_cases hfacets : o.hasFacets = true
  · simp only [hfacets, Bool.not_true, Bool.false_eq_true, if_false, forall_const]
    refine ((Accepts.mapM fun f _ => s.accepts_fieldName f).bind fun _ _ =>
      (Accepts.mapM fun n _ => n.accepts_queryText s).bind_ok _).congr ⟨?_, ?_⟩
    · exact fun h => ⟨h.1, h.2⟩
    · exact fun h => ⟨h.fields, h.queries⟩
  · rw [Bool.not_eq_true] at hfacets
    simp only [hfacets, Bool.not_false, if_true]
    exact .ok nofun []

/-- What a section asks of its part of the query. -/
def Section.WellFormed (s : Scope) (q : Query) : Section → Prop
  | .query => q.criteria.WellFormed s.compiler.configuration.strictFunctions
  | .filters => ∀ n ∈ q.filters, n.WellFormed s.compiler.configuration.strictFunctions
  | .fields => (∀ f ∈ q.projection, f.IsNamed) ∧
    ∀ c ∈ q.calculated, c.function.WellFormed s.compiler.configuration.strictFunctions
  | .sort => ∀ o ∈ q.sort, o.field.IsNamed
  | .group => ∀ g ∈ q.groupOptions, g.WellFormed s
  | .facet => ∀ o ∈ q.facetOptions, o.NamesAny → o.WellFormed s
  | .start | .rows | .operator | .defType | .handler | .timeAllowed => True

theorem Section.accepts_entries (s : Scope) (q : Query) (part : Section) :
    Accepts (part.WellFormed s q) (part.entries s q) := by
  cases part with
  | query => exact (q.criteria.accepts_queryText s).bind_ok _
  | filters => exact accepts_filterEntries s q.filters
  | fields => exact accepts_fieldEntries s q.projection q.calculated
  | sort => exact accepts_sortEntries s "sort" q.sort
  | group =>
    unfold Section.WellFormed Section.entries
    cases q.groupOptions with
    | none => exact .ok nofun []
    | some g => exact (g.accepts_entries s).congr forall_mem_some_iff.symm
  | facet =>
    unfold Section.WellFormed Section.entries
    cases q.facetOptions with
    | none => exact .ok nofun []
    | some o =>
      have hsome := forall_mem_some_iff
        (P := fun o : FacetOptions => o.NamesAny → o.WellFormed s) (a := o)
      exact (o.accepts_entries s).congr hsome.symm
  | start | rows | operator | defType | handler | timeAllowed => exact .always _

/-! ## Requests -/

theorem Section.mem_all (part : Section) : part ∈ Section.all := by
  cases part <;> decide

/-- A query is well-formed when it is bounded and every section has what it asks for. -/
theorem Query.wellFormed_iff {s : Scope} {q : Query} :
    q.WellFormed s ↔ q.Bounded ∧ ∀ part ∈ Section.all, part.WellFormed s q := by
  constructor
  · intro h
    refine ⟨h.bounded, fun part _ => ?_⟩
    cases part with
    | query => exact h.criteria
    | filters => exact h.filters
    | fields => exact ⟨h.projection, h.calculated⟩
    | sort => exact h.sort
    | group => exact h.group
    | facet => exact h.facet
    | start | rows | operator | defType | handler | timeAllowed => trivial
  · rintro ⟨hbounded, h⟩
    have part : ∀ part : Section, part.WellFormed s q := fun part => h part part.mem_all
    exact ⟨hbounded, part .query, part .filters, (part .fields).1, (part .fields).2, part .sort,
      part .group, part .facet⟩

theorem Section.group_cases {s : Scope} {q : Query} {entries : Entries}
    (h : Section.group.entries s q = .ok entries) :
    q.groupOptions = none ∧ entries = [] ∨
      ∃ g, q.groupOptions = some g ∧ g.entries s = .ok entries := by
  unfold Section.entries at h
  cases hoptions : q.groupOptions with
  | none =>
    rw [hoptions] at h
    cases h
    exact .inl ⟨rfl, rfl⟩
  | some g =>
    rw [hoptions] at h
    exact .inr ⟨g, rfl, h⟩

theorem Section.facet_cases {s : Scope} {q : Query} {entries : Entries}
    (h : Section.facet.entries s q = .ok entries) :
    q.facetOptions = none ∧ entries = [] ∨
      ∃ o, q.facetOptions = some o ∧ o.entries s = .ok entries := by
  unfold Section.entries at h
  cases hoptions : q.facetOptions with
  | none =>
    rw [hoptions] at h
    cases h
    exact .inl ⟨rfl, rfl⟩
  | some o =>
    rw [hoptions] at h
    exact .inr ⟨o, rfl, h⟩

/-- Naming does not fail where the group section is written. -/
theorem Query.exists_namedObjects {s : Scope} {q : Query} {entries : Entries}
    (h : Section.group.entries s q = .ok entries) : ∃ names, q.namedObjects s = .ok names := by
  unfold Query.namedObjects
  obtain ⟨hnone, -⟩ | ⟨g, hg, hentries⟩ := Section.group_cases h
  · rw [hnone]
    exact ⟨[], rfl⟩
  · obtain ⟨texts, htexts, -⟩ := bind_eq_ok_iff.mp hentries
    rw [hg]
    exact ⟨_, bind_eq_ok_iff.mpr ⟨texts, htexts, rfl⟩⟩

theorem Compiler.accepts_compile (c : Compiler) (q : Query) (domain : Option String) :
    Accepts (q.WellFormed ⟨c, domain⟩) (c.compile q domain) := by
  have hsections := Accepts.mapM fun part (_ : part ∈ Section.all) =>
    part.accepts_entries ⟨c, domain⟩ q
  have hcompile : Accepts (q.Bounded ∧ ∀ part ∈ Section.all, part.WellFormed ⟨c, domain⟩ q)
      (c.compile q domain) := by
    refine q.accepts_check.bind fun _ _ =>
      (hsections.bind fun sections hok => ?_).congr (and_true _).to_iff
    obtain ⟨entries, -, hgroup⟩ := exists_of_mapM_eq_ok hok (Section.mem_all .group)
    obtain ⟨names, hnames⟩ := Query.exists_namedObjects hgroup
    rw [hnames]
    exact .always _
  exact hcompile.congr Query.wellFormed_iff.symm

/-- **Exactly the well-formed queries are compiled**, and what is refused is refused as an invalid
argument. -/
theorem Compiler.compile_accepts_exactly (c : Compiler) (q : Query) (domain : Option String) :
    ((∃ r, c.compile q domain = .ok r) ↔ q.WellFormed ⟨c, domain⟩) ∧
      ∀ e, c.compile q domain = .error e → e.kind = .invalidArgument := by
  have h := c.accepts_compile q domain
  refine ⟨h.exists_ok_iff, fun e he => ?_⟩
  rw [he] at h
  exact h.kind_of_error

/-- A query that groups by a query whose text is blank. -/
def groupedByBlank : Query :=
  Query.default.withGroupOptions
    (GroupOptions.default.byQuery (.of (.criteria (Criteria.empty.expression " "))))

/-- The blank name is the only fault of it. -/
theorem groupedByBlank_refused :
    Query.default.WellFormed ⟨.default, none⟩ ∧ ¬groupedByBlank.WellFormed ⟨.default, none⟩ ∧
      ∃ e, Compiler.default.compile groupedByBlank none = .error e ∧ e.kind = .invalidArgument := by
  have hdefault := Compiler.default.compile_accepts_exactly Query.default none
  have hblank := Compiler.default.compile_accepts_exactly groupedByBlank none
  have hrefused : Compiler.default.compile groupedByBlank none = .error .blankName := rfl
  refine ⟨hdefault.1.mp ⟨_, rfl⟩, fun h => ?_, _, hrefused, hblank.2 _ hrefused⟩
  obtain ⟨r, hr⟩ := hblank.1.mpr h
  cases hrefused.symm.trans hr

end SolrRequest

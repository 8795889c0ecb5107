import SolrRequest.Proofs.Fragment.Blank
import SolrRequest.Proofs.Query.Built
import SolrRequest.Proofs.Request.Acceptance

/-!
# Queries from builders are compiled

Whatever builders make is compiled (`Query.Built.compiles`): what they check once is all that the
compiler checks again. The one thing it asks for besides, that names of groups are not blank, holds
because the text of such a tree is never blank (`Node.Every.not_blank`).
-/

namespace SolrRequest

open Text

/-! ## Texts that are not blank -/

/-- The field stands in the text, or else a predicate that names the field is written, which is
never blank. -/
theorem Criteria.Legible.not_blank {strict : Bool} {s : Scope} {k : Criteria}
    (hk : k.Legible strict) : ¬k.Blank s := by
  intro h
  obtain ⟨before, p, after, hpredicates, hp, hothers⟩ := h.alone
  obtain hfield | ⟨q, hq, hnames⟩ := h.withoutField
  · obtain ⟨f, hf, -⟩ := hk.field
    cases hf.symm.trans hfield
  · have hshown := (hk.predicates q hq).shown hnames
    have hhidden : q ∈ before ++ after → False := fun hmem =>
      Bool.false_ne_true (hshown.symm.trans (hothers q hmem))
    rw [hpredicates] at hq
    rcases List.mem_append.mp hq with hq | hq
    · exact hhidden (List.mem_append_left _ hq)
    · rcases List.mem_cons.mp hq with rfl | hq
      · exact hp.not_namesField hnames
      · exact hhidden (List.mem_append_right _ hq)

theorem Node.Every.not_blank {strict : Bool} {s : Scope} {n : Node}
    (h : n.Every (Criteria.Legible strict)) : ¬n.Blank s := by
  intro hblank
  cases hblank with
  | criteria hk =>
    cases h with
    | criteria hlegible => exact hlegible.not_blank hk
  | group junction chained hk hothers =>
    cases h with
    | group _ _ hclauses =>
      cases hclauses ⟨junction, _⟩ (List.mem_append_right _ List.mem_cons_self) with
      | criteria hlegible => exact hlegible.not_blank hk

theorem Node.Every.isBlank_queryText {strict : Bool} {s : Scope} {n : Node}
    (h : n.Every (Criteria.Legible strict)) {text : String}
    (htext : n.queryText s = .ok text) : isBlank text = false :=
  Bool.eq_false_iff.mpr (h.not_blank ∘ (Node.isBlank_queryText_iff htext).mp)

/-! ## Queries -/

structure FacetOptions.Sound (strict : Bool) (o : FacetOptions) : Prop where
  fields : ∀ f ∈ o.fields, f.IsNamed
  queries : ∀ n ∈ o.queries, n.Every (Criteria.Legible strict)

/-- What the builders of grouping options keep. -/
structure GroupOptions.Sound (strict : Bool) (g : GroupOptions) : Prop where
  fields : ∀ f ∈ g.fields, f.IsNamed
  functions : ∀ f ∈ g.functions, f.WellFormed strict
  queries : ∀ q ∈ g.queries, q.Bounded ∧ q.criteria.Every (Criteria.Legible strict)
  limit : ∀ n ∈ g.limit, -1 ≤ n
  sort : ∀ o ∈ g.sort, o.field.IsNamed
  cachePercent : g.cachePercent ≤ 100

/-- What the builders of queries keep. -/
structure Query.Sound (strict : Bool) (q : Query) : Prop where
  criteria : q.criteria.Every (Criteria.Legible strict)
  filters : ∀ n ∈ q.filters, n.Every (Criteria.Legible strict)
  projection : ∀ f ∈ q.projection, f.IsNamed
  calculated : ∀ c ∈ q.calculated, c.function.WellFormed strict
  sort : ∀ o ∈ q.sort, o.field.IsNamed
  rows : ∀ n ∈ q.rows, n ≠ 0
  group : ∀ g ∈ q.groupOptions, g.NamesAny ∧ g.Sound strict
  facet : ∀ o ∈ q.facetOptions, o.Sound strict

theorem FacetOptions.Built.sound {c : Compiler} {o : FacetOptions} (h : o.Built c) :
    o.Sound c.configuration.strictFunctions := by
  induction h with
  | default => exact ⟨List.forall_mem_nil _, List.forall_mem_nil _⟩
  | onField _ hr ih =>
    obtain ⟨f, hf, hr⟩ := bind_eq_ok_iff.mp hr
    cases hr
    exact { ih with fields := forall_mem_concat ih.fields (Field.isNamed_of_named hf) }
  | onQuery _ hn ih =>
    exact { ih with queries := forall_mem_concat ih.queries hn.every }
  | withLimit _ _ ih | withMinCount _ _ ih | withSort _ _ ih | withStart _ _ ih
  | withOffset _ _ ih | withMissing _ _ ih => exact { ih with }

theorem GroupOptions.Sound.bounded {strict : Bool} {g : GroupOptions} (h : g.Sound strict) :
    g.Bounded := by
  obtain ⟨_, _, queries, limit, _, _, _, _, _, _, percent⟩ := g
  refine ⟨h.limit, h.cachePercent, GroupOptions.queriesBounded_iff.mpr fun q hq => ?_⟩
  exact (h.queries q hq).1

theorem Query.Sound.bounded {strict : Bool} {q : Query} (h : q.Sound strict) : q.Bounded := by
  obtain ⟨_, _, _, _, _, _, rows, options, _, _, _, _, _⟩ := q
  refine ⟨h.rows, ?_⟩
  cases options with
  | none => trivial
  | some g => exact (h.group g rfl).2.bounded

theorem Query.Sound.of {strict : Bool} {n : Node} (h : n.Every (Criteria.Legible strict)) :
    (Query.of n).Sound strict where
  criteria := h
  filters := List.forall_mem_nil _
  projection := List.forall_mem_nil _
  calculated := List.forall_mem_nil _
  sort := List.forall_mem_nil _
  rows := nofun
  group := nofun
  facet := nofun

theorem Query.Sound.withCriteria {strict : Bool} {q : Query} {n : Node} (h : q.Sound strict)
    (hn : n.Every (Criteria.Legible strict)) : (q.withCriteria n).Sound strict := by
  unfold Query.withCriteria
  split
  · exact { h with criteria := hn }
  · exact { h with criteria := h.criteria.join .and hn }

mutual

/-- Every builder of queries keeps what a query has to be like. -/
theorem Query.Built.sound {c : Compiler} {q : Query} :
    q.Built c → q.Sound c.configuration.strictFunctions
  | .default => .of (.group _ _ (List.forall_mem_nil _))
  | .of hn => .of hn.every
  | .withCriteria h hn => (Query.Built.sound h).withCriteria hn.every
  | .withFilter h hn => by
    have ih := Query.Built.sound h
    exact { ih with filters := forall_mem_concat ih.filters hn.every }
  | .withProjection h hr => by
    have ih := Query.Built.sound h
    obtain ⟨f, hf, hr⟩ := bind_eq_ok_iff.mp hr
    cases hr
    exact { ih with projection := forall_mem_concat ih.projection (Field.isNamed_of_named hf) }
  | .withCalculated h hf => by
    have ih := Query.Built.sound h
    exact { ih with calculated := forall_mem_concat ih.calculated hf.wellFormed }
  | .withSort h hsort => by
    have ih := Query.Built.sound h
    exact { ih with sort := List.forall_mem_append.mpr ⟨ih.sort, hsort.isNamed⟩ }
  | .withPage h hr => by
    have ih := Query.Built.sound h
    obtain ⟨hrows, -, hr⟩ := (accepts_checkRows _).holds_of_bind hr
    cases hr
    exact { ih with rows := forall_mem_some_iff.mpr hrows }
  | .withRows h hr => by
    have ih := Query.Built.sound h
    obtain ⟨hrows, -, hr⟩ := (accepts_checkRows _).holds_of_bind hr
    cases hr
    exact { ih with rows := forall_mem_some_iff.mpr hrows }
  | .withGroupOptions h hg hgroups => by
    have ih := Query.Built.sound h
    exact { ih with group := forall_mem_some_iff.mpr ⟨hgroups, GroupOptions.Built.sound hg⟩ }
  | .withFacetOptions h ho => by
    have ih := Query.Built.sound h
    exact { ih with facet := forall_mem_some_iff.mpr ho.sound }
  | .withOperator _ h => { Query.Built.sound h with }
  | .withDefType _ h => { Query.Built.sound h with }
  | .withHandler _ h => { Query.Built.sound h with }
  | .withTimeAllowed _ h => { Query.Built.sound h with }

theorem GroupOptions.Built.sound {c : Compiler} {g : GroupOptions} :
    g.Built c → g.Sound c.configuration.strictFunctions
  | .default =>
    ⟨List.forall_mem_nil _, List.forall_mem_nil _, List.forall_mem_nil _, nofun,
      List.forall_mem_nil _, by decide⟩
  | .byField h hr => by
    have ih := GroupOptions.Built.sound h
    obtain ⟨f, hf, hr⟩ := bind_eq_ok_iff.mp hr
    cases hr
    exact { ih with fields := forall_mem_concat ih.fields (Field.isNamed_of_named hf) }
  | .byFunction h hf => by
    have ih := GroupOptions.Built.sound h
    exact { ih with functions := forall_mem_concat ih.functions hf.wellFormed }
  | .byQuery h hq => by
    have ih := GroupOptions.Built.sound h
    have hsound := Query.Built.sound hq
    exact { ih with queries := forall_mem_concat ih.queries ⟨hsound.bounded, hsound.criteria⟩ }
  | .withLimit h hr => by
    have ih := GroupOptions.Built.sound h
    obtain ⟨hlimit, -, hr⟩ := (accepts_checkGroupLimit _).holds_of_bind hr
    cases hr
    exact { ih with limit := forall_mem_some_iff.mpr hlimit }
  | .withSort h hsort => by
    have ih := GroupOptions.Built.sound h
    exact { ih with sort := List.forall_mem_append.mpr ⟨ih.sort, hsort.isNamed⟩ }
  | .withCachePercent h hr => by
    have ih := GroupOptions.Built.sound h
    obtain ⟨hpercent, -, hr⟩ := (accepts_checkCachePercent _).holds_of_bind hr
    cases hr
    exact { ih with cachePercent := hpercent }
  | .withOffset _ h => { GroupOptions.Built.sound h with }
  | .withTotalCount _ h => { GroupOptions.Built.sound h with }
  | .withMain _ h => { GroupOptions.Built.sound h with }
  | .withFacets _ h => { GroupOptions.Built.sound h with }
  | .withTruncate _ h => { GroupOptions.Built.sound h with }

end

theorem Query.Sound.wellFormed {c : Compiler} {q : Query}
    (h : q.Sound c.configuration.strictFunctions) (domain : Option String) :
    q.WellFormed ⟨c, domain⟩ where
  bounded := h.bounded
  criteria := h.criteria.wellFormed
  filters n hn := (h.filters n hn).wellFormed
  projection := h.projection
  calculated := h.calculated
  sort := h.sort
  group g hg :=
    have hsound := (h.group g hg).2
    { names := (h.group g hg).1
      fields := hsound.fields
      functions := hsound.functions
      queries := fun q hq =>
        ⟨(hsound.queries q hq).2.wellFormed, fun _ => (hsound.queries q hq).2.isBlank_queryText⟩
      sort := hsound.sort }
  facet o ho _ := ⟨(h.facet o ho).fields, fun n hn => ((h.facet o ho).queries n hn).wellFormed⟩

/-- **What builders make is compiled**, in any domain. -/
theorem Query.Built.compiles {c : Compiler} {q : Query} (h : q.Built c) (domain : Option String) :
    ∃ r, c.compile q domain = .ok r :=
  (c.accepts_compile q domain).exists_ok_iff.mpr (h.sound.wellFormed domain)

/-- A query that groups by a blank expression on a field, which is refused without the field. -/
def groupedOnField : Query :=
  Query.default.withGroupOptions (GroupOptions.default.byQuery
    (.of (.criteria ((Criteria.on ⟨"title", none⟩).expression " "))))

theorem groupedOnField_compiled :
    groupedOnField.Built .default ∧
      ∃ r, Compiler.default.compile groupedOnField (some "Product") = .ok r := by
  have htitle : (Criteria.on ⟨"title", none⟩).Built .default := by
    have hon : Criteria.onField "title" = .ok (.on ⟨"title", none⟩) := rfl
    exact .onField hon
  have hquery : (Query.of (.criteria ((Criteria.on ⟨"title", none⟩).expression " "))).Built
      .default := .of (.criteria (htitle.expression " "))
  have hbuilt : groupedOnField.Built .default :=
    .withGroupOptions .default (.byQuery .default hquery)
      (.inr (.inr (List.cons_ne_nil _ _)))
  exact ⟨hbuilt, hbuilt.compiles (some "Product")⟩

end SolrRequest

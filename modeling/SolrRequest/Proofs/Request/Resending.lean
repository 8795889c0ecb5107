import SolrRequest.Proofs.Request.Built
import SolrRequest.Proofs.Request.Names

/-!
# Sending query texts back

An index reports what it has counted under the texts of the facet queries, and `FacetCount.toQuery`
makes a raw query of such a text. A request holds the texts of more queries: of the query itself,
and of those that results are grouped by (`Request.searchTexts`). Each of them is compiled to itself
when it is sent back as a raw query, unless it is blank: then the query for everything is sent in
its place (`Compiler.resends`). Which nodes have a blank text is said by `Node.Blank`; a query to
group by is refused when it has one.
-/

namespace SolrRequest

open Text

theorem Node.queryText_raw (s : Scope) (text : String) :
    (Node.raw text).queryText s = .ok (if isBlank text then matchAll else text) := by
  rw [Node.queryText, Node.fragment]
  split <;> rfl

/-- The nodes whose texts stand alone in a request: that of the query, those that are counted, and
those that results are grouped by. -/
def Query.searches (q : Query) : List Node :=
  q.criteria :: ((q.facetOptions.map (·.queries)).getD [] ++
    (q.groupOptions.map fun g => g.queries.map (·.criteria)).getD [])

/-- The texts of these nodes in a request. -/
def Request.searchTexts (r : Request) : List String :=
  r.params.getAll "q" ++ (r.params.getAll "facet.query" ++ r.params.getAll "group.query")

/-! ## The texts in a request -/

/-- The names of the parameters that say how counts are made. -/
def facetSettings : List String :=
  ["facet.limit", "facet.mincount", "facet.sort", "facet.prefix", "facet.offset", "facet.missing"]

theorem FacetOptions.getAll_entries {s : Scope} {o : FacetOptions} {entries : Entries}
    (h : o.entries s = .ok entries) :
    List.Forall₂ (fun n text => n.queryText s = .ok text) o.queries
      (Params.getAll ⟨entries⟩ "facet.query") := by
  unfold FacetOptions.entries at h
  cases hfacets : o.hasFacets with
  | false =>
    rw [hfacets] at h
    cases h
    rw [FacetOptions.queries_eq_nil hfacets]
    exact .nil
  | true =>
    rw [hfacets] at h
    obtain ⟨fields, -, h⟩ := bind_eq_ok_iff.mp h
    obtain ⟨texts, htexts, h⟩ := bind_eq_ok_iff.mp h
    simp only [List.append_assoc] at h
    cases h
    have hsettings : ∀ settings, Entries.Under facetSettings settings →
        List.Forall₂ (fun n text => n.queryText s = .ok text) o.queries
          (Params.getAll ⟨("facet", "true") :: (fields.map (("facet.field", ·)) ++
            (texts.map (("facet.query", ·)) ++ settings))⟩ "facet.query") := by
      intro settings h
      have hnil : Params.getAll ⟨settings⟩ "facet.query" = [] :=
        Params.getAll_eq_nil h (by decide)
      simpa [hnil] using mapM_eq_ok_iff.mp htexts
    refine hsettings _ (.append (.cons (by decide) (.cons (by decide) (.cons (by decide) .nil))) ?_)
    refine .append (.optionEntry (by decide) _ _) (.append (.optionEntry (by decide) _ _) ?_)
    exact .switchEntry (by decide) _

/-- A blank text is not taken as the name of a group. -/
theorem GroupOptions.isBlank_queryTexts {s : Scope} {g : GroupOptions} {texts : GroupTexts}
    (h : g.texts s = .ok texts) : ∀ text ∈ texts.queries, isBlank text = false := by
  unfold GroupOptions.texts at h
  split at h
  · cases h
  · obtain ⟨fields, -, h⟩ := bind_eq_ok_iff.mp h
    obtain ⟨functions, -, h⟩ := bind_eq_ok_iff.mp h
    obtain ⟨queries, hqueries, h⟩ := bind_eq_ok_iff.mp h
    cases h
    intro text htext
    obtain ⟨q, -, hq⟩ := exists_of_mem_of_mapM_eq_ok hqueries htext
    obtain ⟨written, -, hname⟩ := bind_eq_ok_iff.mp hq
    have hblank : isBlank written = false := (hname ▸ accepts_groupName written).holds
    exact groupName_eq_ok hname ▸ hblank

variable {c : Compiler} {q : Query} {domain : Option String} {r : Request}

theorem Compiler.getAll_groupQuery (h : c.compile q domain = .ok r) :
    List.Forall₂ (fun n text => n.queryText ⟨c, domain⟩ = .ok text)
        ((q.groupOptions.map fun g => g.queries.map (·.criteria)).getD [])
        (r.params.getAll "group.query") ∧
      ∀ text ∈ r.params.getAll "group.query", isBlank text = false := by
  rw [Params.getAll_eq_part r .group (by decide)]
  obtain ⟨hnone, hnil⟩ | ⟨g, hg, hentries⟩ :=
    Section.group_cases ((Section.entries_eq_part h).1 .group)
  · rw [hnone, hnil]
    exact ⟨.nil, List.forall_mem_nil _⟩
  · obtain ⟨texts, htexts, -, hqueries⟩ := GroupOptions.getAll_entries hentries
    rw [hg, hqueries]
    exact ⟨List.forall₂_map_left_iff.mpr (GroupOptions.texts_spec htexts).2,
      GroupOptions.isBlank_queryTexts htexts⟩

theorem Compiler.getAll_facetQuery (h : c.compile q domain = .ok r) :
    List.Forall₂ (fun n text => n.queryText ⟨c, domain⟩ = .ok text)
      ((q.facetOptions.map (·.queries)).getD []) (r.params.getAll "facet.query") := by
  rw [Params.getAll_eq_part r .facet (by decide)]
  obtain ⟨hnone, hnil⟩ | ⟨o, ho, hentries⟩ :=
    Section.facet_cases ((Section.entries_eq_part h).1 .facet)
  · rw [hnone, hnil]
    exact .nil
  · rw [ho]
    exact FacetOptions.getAll_entries hentries

theorem Compiler.getAll_query (h : c.compile q domain = .ok r) :
    ∃ text, q.criteria.queryText ⟨c, domain⟩ = .ok text ∧ r.params.getAll "q" = [text] := by
  obtain ⟨text, htext, hpart⟩ := (Request.composed h).query
  refine ⟨text, htext, ?_⟩
  rw [Params.getAll_eq_part r .query (by decide), hpart]
  rfl

theorem Compiler.searchTexts_of_searches (h : c.compile q domain = .ok r) :
    List.Forall₂ (fun n text => n.queryText ⟨c, domain⟩ = .ok text) q.searches r.searchTexts := by
  obtain ⟨text, htext, hq⟩ := Compiler.getAll_query h
  rw [Request.searchTexts, hq]
  exact .cons htext
    (List.rel_append (Compiler.getAll_facetQuery h) (Compiler.getAll_groupQuery h).1)

/-! ## Sending back -/

/-- A count is always turned into a query that is compiled. -/
theorem Compiler.compile_toQuery (c : Compiler) (domain : Option String) (count : FacetCount) :
    ∃ r, c.compile count.toQuery domain = .ok r ∧
      r.params.getAll "q" = [if isBlank count.query then matchAll else count.query] := by
  have hsound : count.toQuery.Sound c.configuration.strictFunctions := .of (.raw count.query)
  obtain ⟨r, hr⟩ := (c.accepts_compile count.toQuery domain).exists_ok_iff.mpr
    (hsound.wellFormed domain)
  obtain ⟨text, htext, hq⟩ := Compiler.getAll_query hr
  cases (Node.queryText_raw ⟨c, domain⟩ count.query).symm.trans htext
  exact ⟨r, hr, hq⟩

/-- **Query texts are sent back as they are, unless they are blank.** The text of a node is blank
exactly when the node is, and a raw query of this text has the same text or else, of a blank one,
that of the query for everything. All of this is true of every text in a request that stands for a
query, under which counts may be reported; and a text to group by is never blank. -/
theorem Compiler.resends (c : Compiler) (domain : Option String) :
    (∀ (n : Node) (text : String), n.queryText ⟨c, domain⟩ = .ok text →
      (isBlank text = true ↔ n.Blank ⟨c, domain⟩) ∧
      (Node.raw text).queryText ⟨c, domain⟩ = .ok (if isBlank text then matchAll else text)) ∧
    ∀ q r, c.compile q domain = .ok r →
      List.Forall₂ (fun n text => n.queryText ⟨c, domain⟩ = .ok text ∧
        ∀ count, ∃ r', c.compile (FacetCount.toQuery ⟨text, count⟩) domain = .ok r' ∧
          r'.params.getAll "q" = [if isBlank text then matchAll else text])
        q.searches r.searchTexts ∧
      ∀ text ∈ r.params.getAll "group.query", isBlank text = false := by
  refine ⟨fun n text h => ⟨Node.isBlank_queryText_iff h, Node.queryText_raw _ text⟩,
    fun q r h => ⟨?_, (Compiler.getAll_groupQuery h).2⟩⟩
  refine (Compiler.searchTexts_of_searches h).imp fun n text htext => ⟨htext, fun count => ?_⟩
  exact c.compile_toQuery domain ⟨text, count⟩

/-- Counts for a blank expression, which has no field, and for a raw query. -/
def countedByBlank : Query :=
  Query.default.withFacetOptions ((FacetOptions.default.onQuery
    (.criteria (Criteria.empty.expression " "))).onQuery (.raw "a:1"))

/-- The documents that the raw query has found are asked for by its own text, and those of the
blank expression by that of the query for everything. -/
theorem countedByBlank_resent :
    ∃ r, Compiler.default.compile countedByBlank none = .ok r ∧
      r.searchTexts = ["*:*", " ", "a:1"] ∧
      (∃ r', Compiler.default.compile (FacetCount.toQuery ⟨" ", 2⟩) none = .ok r' ∧
        r'.params.getAll "q" = ["*:*"]) ∧
      ∃ r', Compiler.default.compile (FacetCount.toQuery ⟨"a:1", 3⟩) none = .ok r' ∧
        r'.params.getAll "q" = ["a:1"] := by
  obtain ⟨r, hr, htexts⟩ : ∃ r, Compiler.default.compile countedByBlank none = .ok r ∧
      r.searchTexts = ["*:*", " ", "a:1"] := by
    refine ⟨_, rfl, ?_⟩
    decide
  obtain ⟨hall, -⟩ := (Compiler.default.resends none).2 countedByBlank r hr
  rw [htexts] at hall
  cases hall with
  | cons _ hfacets =>
    cases hfacets with
    | cons hblank hrest =>
      cases hrest with
      | cons hraw _ => exact ⟨r, hr, htexts, hblank.2 2, hraw.2 3⟩

/-- A blank expression has a blank text, which does not stand for itself. -/
theorem blankExpression_lost :
    let s : Scope := ⟨.default, none⟩
    (Node.criteria (Criteria.empty.expression " ")).queryText s = .ok " " ∧
      (Node.raw " ").queryText s = .ok "*:*" := by
  constructor <;> rfl

end SolrRequest

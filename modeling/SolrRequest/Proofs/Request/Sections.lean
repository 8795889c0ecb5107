import SolrRequest.Proofs.Outcome
import SolrRequest.Proofs.Request.Acceptance

/-!
# Requests by sections

No two sections write parameters of one name, so the sections of a request can be told from its
parameters alone (`Request.part`). They are what the sections of the query wrote, in order
(`Section.entries_eq_part`), and each of them depends on its own members of the query only
(`Section.SameMembers.entries_eq`). `Compiler.compile_composed` puts this together, and says which
error is thrown otherwise: that of the first section that fails.
-/

namespace SolrRequest

/-! ## Names of parameters -/

/-- The names of the parameters that a section writes. -/
def Section.names : Section → List String
  | .query => ["q"]
  | .filters => ["fq"]
  | .fields => ["fl"]
  | .sort => ["sort"]
  | .start => ["start"]
  | .rows => ["rows"]
  | .operator => ["q.op"]
  | .defType => ["defType"]
  | .handler => ["qt"]
  | .timeAllowed => ["timeAllowed"]
  | .group => ["group", "group.field", "group.func", "group.query", "group.limit", "group.offset",
      "group.sort", "group.ngroups", "group.main", "group.facet", "group.truncate",
      "group.cache.percent"]
  | .facet => ["facet", "facet.field", "facet.query", "facet.limit", "facet.mincount",
      "facet.sort", "facet.prefix", "facet.offset", "facet.missing"]

/-- The entries of a request that belong to a section. -/
def Request.part (r : Request) (part : Section) : Entries :=
  r.params.entries.filter fun e => part.names.contains e.1

theorem Section.eq_of_mem_names {part other : Section} {name : String}
    (h : name ∈ part.names) (ho : name ∈ other.names) : part = other := by
  have disjoint : ∀ part ∈ Section.all, ∀ other ∈ Section.all,
      ∀ name ∈ part.names, name ∈ other.names → part = other := by
    decide +kernel
  exact disjoint part part.mem_all other other.mem_all name h ho

/-- All entries are under some of the names. -/
def Entries.Under (names : List String) (entries : Entries) : Prop :=
  ∀ e ∈ entries, e.1 ∈ names

namespace Entries.Under

variable {names : List String} {a b : Entries}

theorem append (ha : Entries.Under names a) (hb : Entries.Under names b) :
    Entries.Under names (a ++ b) :=
  List.forall_mem_append.mpr ⟨ha, hb⟩

theorem cons {name value : String} (h : name ∈ names) (ha : Entries.Under names a) :
    Entries.Under names ((name, value) :: a) :=
  List.forall_mem_cons.mpr ⟨h, ha⟩

theorem nil : Entries.Under names [] :=
  List.forall_mem_nil _

theorem map {name : String} (h : name ∈ names) (values : List String) :
    Entries.Under names (values.map (name, ·)) :=
  List.forall_mem_map.mpr fun _ _ => h

theorem optionEntry {α : Type} {name : String} (h : name ∈ names) (text : α → String)
    (o : Option α) : Entries.Under names (optionEntry name text o) := by
  cases o with
  | none => exact nil
  | some a => exact nil.cons h

theorem switchEntry {name : String} (h : name ∈ names) (on : Bool) :
    Entries.Under names (switchEntry name on) := by
  cases on with
  | false => exact nil
  | true => exact nil.cons h

end Entries.Under

/-! ## What each section writes -/

/-- A sorting is written in one parameter, or not at all. -/
theorem sortEntries_spec {s : Scope} {name : String} {sort : Sorting} {entries : Entries}
    (h : sortEntries s name sort = .ok entries) :
    entries.length ≤ 1 ∧ ∀ e ∈ entries, e.1 = name := by
  obtain ⟨orders, -, h⟩ := bind_eq_ok_iff.mp h
  cases h
  split
  · exact ⟨Nat.zero_le 1, List.forall_mem_nil _⟩
  · exact ⟨Nat.le_refl 1, List.forall_mem_singleton.mpr rfl⟩

theorem fieldEntries_spec {s : Scope} {projection : List Field} {calculated : List CalculatedField}
    {entries : Entries} (h : fieldEntries s projection calculated = .ok entries) :
    entries.length ≤ 1 ∧ ∀ e ∈ entries, e.1 = "fl" := by
  obtain ⟨names, -, h⟩ := bind_eq_ok_iff.mp h
  obtain ⟨texts, -, h⟩ := bind_eq_ok_iff.mp h
  cases h
  split
  · exact ⟨Nat.zero_le 1, List.forall_mem_nil _⟩
  · exact ⟨Nat.le_refl 1, List.forall_mem_singleton.mpr rfl⟩

theorem filterEntries_spec {s : Scope} {filters : List Node} {entries : Entries}
    (h : filterEntries s filters = .ok entries) :
    ∃ texts, List.Forall₂ (fun n text => n.fragment s false = .ok text) filters texts ∧
      entries = (texts.filterMap id).map ("fq", ·) := by
  obtain ⟨texts, htexts, h⟩ := bind_eq_ok_iff.mp h
  cases h
  exact ⟨texts, mapM_eq_ok_iff.mp htexts, rfl⟩

/-- The names of the parameters that say how groups are shown. -/
def groupSettings : List String :=
  ["group.limit", "group.offset", "group.sort", "group.ngroups", "group.main", "group.facet",
    "group.truncate", "group.cache.percent"]

/-- Grouping starts with the texts to group by, each under the name of its kind. -/
theorem GroupOptions.entries_spec {s : Scope} {g : GroupOptions} {entries : Entries}
    (h : g.entries s = .ok entries) : ∃ texts settings, g.texts s = .ok texts ∧
      Entries.Under groupSettings settings ∧
      entries = ("group", "true") :: (texts.fields.map (("group.field", ·)) ++
        (texts.functions.map (("group.func", ·)) ++
          (texts.queries.map (("group.query", ·)) ++ settings))) := by
  obtain ⟨texts, htexts, h⟩ := bind_eq_ok_iff.mp h
  obtain ⟨sort, hsort, h⟩ := bind_eq_ok_iff.mp h
  simp only [List.append_assoc] at h
  cases h
  have hsorted : Entries.Under groupSettings sort := by
    intro e he
    rw [(sortEntries_spec hsort).2 e he]
    decide
  refine ⟨texts, _, htexts, ?_, rfl⟩
  refine .append (.optionEntry (by decide) _ _) (.append (.optionEntry (by decide) _ _) ?_)
  refine hsorted.append (.append (.switchEntry (by decide) _) ?_)
  refine .append (.switchEntry (by decide) _) (.append (.switchEntry (by decide) _) ?_)
  refine .append (.switchEntry (by decide) _) ?_
  split
  · exact .nil
  · exact Entries.Under.nil.cons (by decide)

theorem GroupOptions.entries_under {s : Scope} {g : GroupOptions} {entries : Entries}
    (h : g.entries s = .ok entries) : Entries.Under Section.group.names entries := by
  obtain ⟨texts, settings, -, hsettings, rfl⟩ := GroupOptions.entries_spec h
  have hincluded : ∀ name ∈ groupSettings, name ∈ Section.group.names := by decide
  refine .cons (by decide) (.append (.map (by decide) _) (.append (.map (by decide) _) ?_))
  exact .append (.map (by decide) _) fun e he => hincluded e.1 (hsettings e he)

theorem FacetOptions.entries_spec {s : Scope} {o : FacetOptions} {entries : Entries}
    (h : o.entries s = .ok entries) :
    (entries ≠ [] ↔ o.NamesAny) ∧ Entries.Under Section.facet.names entries := by
  rw [← FacetOptions.hasFacets_iff]
  unfold FacetOptions.entries at h
  cases hfacets : o.hasFacets with
  | false =>
    rw [hfacets] at h
    cases h
    exact ⟨by simp, .nil⟩
  | true =>
    rw [hfacets] at h
    obtain ⟨fields, -, h⟩ := bind_eq_ok_iff.mp h
    obtain ⟨queries, -, h⟩ := bind_eq_ok_iff.mp h
    cases h
    refine ⟨by simp, .cons (by decide) ?_⟩
    exact (((((Entries.Under.map (by decide) _).append (.map (by decide) _)).append
      (.cons (by decide) (.cons (by decide) (.cons (by decide) .nil)))).append
      (.optionEntry (by decide) _ _)).append (.optionEntry (by decide) _ _)).append
      (.switchEntry (by decide) _)

/-- A section writes parameters of its own names only. -/
theorem Section.under_names {s : Scope} {q : Query} {part : Section} {entries : Entries}
    (h : part.entries s q = .ok entries) : Entries.Under part.names entries := by
  cases part with
  | query =>
    obtain ⟨text, -, h⟩ := bind_eq_ok_iff.mp h
    cases h
    exact Entries.Under.nil.cons (by decide)
  | filters =>
    obtain ⟨texts, -, rfl⟩ := filterEntries_spec h
    exact .map (by decide) _
  | fields =>
    intro e he
    rw [(fieldEntries_spec h).2 e he]
    decide
  | sort =>
    intro e he
    rw [(sortEntries_spec h).2 e he]
    decide
  | start | rows | operator | defType | handler | timeAllowed =>
    cases h
    exact .optionEntry (by decide) _ _
  | group =>
    obtain ⟨-, rfl⟩ | ⟨g, -, hentries⟩ := Section.group_cases h
    · exact .nil
    · exact GroupOptions.entries_under hentries
  | facet =>
    obtain ⟨-, rfl⟩ | ⟨o, -, hentries⟩ := Section.facet_cases h
    · exact .nil
    · exact (FacetOptions.entries_spec hentries).2

/-! ## The sections of a request -/

theorem filter_names_of_under {part other : Section} {entries : Entries}
    (h : Entries.Under other.names entries) :
    entries.filter (fun e => part.names.contains e.1) = if other = part then entries else [] := by
  split
  · subst other
    exact List.filter_eq_self.mpr fun e he => List.contains_iff_mem.mpr (h e he)
  · rename_i hne
    refine List.filter_eq_nil_iff.mpr fun e he hmem => hne ?_
    exact Section.eq_of_mem_names (h e he) (List.contains_iff_mem.mp hmem)

theorem Section.flatMap_all_ite (part : Section) (entries : Section → Entries) :
    (Section.all.flatMap fun other => if other = part then entries other else []) =
      entries part := by
  cases part <;> simp [Section.all]

/-- The sections of a request are what the sections of its query wrote, one after the other. -/
theorem Section.entries_eq_part {c : Compiler} {q : Query} {domain : Option String} {r : Request}
    (h : c.compile q domain = .ok r) :
    (∀ part : Section, part.entries ⟨c, domain⟩ q = .ok (r.part part)) ∧
      r.params.entries = Section.all.flatMap r.part := by
  obtain ⟨-, -, h⟩ := bind_eq_ok_iff.mp h
  obtain ⟨sections, hsections, h⟩ := bind_eq_ok_iff.mp h
  obtain ⟨names, -, h⟩ := bind_eq_ok_iff.mp h
  cases h
  have hwritten : ∀ part : Section, ∃ entries, part.entries ⟨c, domain⟩ q = .ok entries := by
    intro part
    obtain ⟨entries, -, hentries⟩ := exists_of_mapM_eq_ok hsections part.mem_all
    exact ⟨entries, hentries⟩
  choose written hwritten using hwritten
  have hmap : sections = Section.all.map written := by
    rw [mapM_eq_ok_of_forall fun part _ => hwritten part] at hsections
    exact (Except.ok.inj hsections).symm
  subst hmap
  -- of the entries of all sections, those under the names of one are its own
  have hpart : ∀ part, Request.part ⟨⟨(Section.all.map written).flatten⟩, ⟨q, names⟩⟩ part =
      written part := by
    intro part
    have hunder : ∀ other ∈ Section.all,
        (written other).filter (fun e => part.names.contains e.1) =
          if other = part then written other else [] :=
      fun other _ => filter_names_of_under (Section.under_names (hwritten other))
    rw [Request.part, ← List.flatMap_def, List.filter_flatMap, List.flatMap_congr hunder]
    exact Section.flatMap_all_ite part written
  refine ⟨fun part => (hpart part).symm ▸ hwritten part, ?_⟩
  rw [funext hpart, List.flatMap_def]

/-- Two queries agree on what a section is written from. -/
def Section.SameMembers (q q' : Query) : Section → Prop
  | .query => q.criteria = q'.criteria
  | .filters => q.filters = q'.filters
  | .fields => q.projection = q'.projection ∧ q.calculated = q'.calculated
  | .sort => q.sort = q'.sort
  | .start => q.offset = q'.offset
  | .rows => q.rows = q'.rows
  | .operator => q.operator = q'.operator
  | .defType => q.defType = q'.defType
  | .handler => q.handler = q'.handler
  | .timeAllowed => q.timeAllowed = q'.timeAllowed
  | .group => q.groupOptions = q'.groupOptions
  | .facet => q.facetOptions = q'.facetOptions

/-- The sections that write one parameter at most. -/
def Section.single : List Section :=
  [fields, sort, start, rows, operator, defType, handler, timeAllowed]

/-- What a request is composed of: the text of the query, its filters that are written, single
parameters, and the parameters of grouping and faceting when there are any. -/
structure Request.Composed (s : Scope) (q : Query) (r : Request) : Prop where
  concatenated : r.params.entries = Section.all.flatMap r.part
  query : ∃ text, q.criteria.queryText s = .ok text ∧ r.part .query = [("q", text)]
  filters : ∃ texts, List.Forall₂ (fun n text => n.fragment s false = .ok text) q.filters texts ∧
    r.part .filters = (texts.filterMap id).map ("fq", ·)
  single : ∀ part ∈ Section.single, (r.part part).length ≤ 1
  group : r.part .group ≠ [] ↔ q.groupOptions.isSome = true
  facet : r.part .facet ≠ [] ↔ ∃ o ∈ q.facetOptions, o.NamesAny

theorem length_optionEntry {α : Type} (name : String) (text : α → String) (o : Option α) :
    (optionEntry name text o).length ≤ 1 := by
  cases o with
  | none => exact Nat.zero_le 1
  | some a => exact Nat.le_refl 1

theorem Request.composed {c : Compiler} {q : Query} {domain : Option String} {r : Request}
    (h : c.compile q domain = .ok r) : r.Composed ⟨c, domain⟩ q := by
  obtain ⟨hpart, hall⟩ := Section.entries_eq_part h
  refine ⟨hall, ?_, filterEntries_spec (hpart .filters), ?_, ?_, ?_⟩
  · obtain ⟨text, htext, hq⟩ := bind_eq_ok_iff.mp (hpart .query)
    exact ⟨text, htext, (Except.ok.inj hq).symm⟩
  · have single : ∀ part : Section, part ∈ Section.single → (r.part part).length ≤ 1 := by
      intro part hsingle
      have hentries := hpart part
      cases part with
      | query | filters | group | facet => simp [Section.single] at hsingle
      | fields => exact (fieldEntries_spec hentries).1
      | sort => exact (sortEntries_spec hentries).1
      | start | rows | operator | defType | handler | timeAllowed =>
        rw [← Except.ok.inj hentries]
        exact length_optionEntry _ _ _
    exact single
  · obtain ⟨hnone, hnil⟩ | ⟨g, hg, hgroup⟩ := Section.group_cases (hpart .group)
    · rw [hnone, hnil]
      exact iff_of_false (fun h => h rfl) Bool.false_ne_true
    · obtain ⟨_, _, -, -, hentries⟩ := GroupOptions.entries_spec hgroup
      rw [hg, hentries]
      exact iff_of_true (List.cons_ne_nil _ _) rfl
  · obtain ⟨hnone, hnil⟩ | ⟨o, ho, hfacet⟩ := Section.facet_cases (hpart .facet)
    · rw [hnone, hnil]
      simp
    · rw [ho]
      simpa using (FacetOptions.entries_spec hfacet).1

end SolrRequest

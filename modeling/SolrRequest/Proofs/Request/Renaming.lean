import SolrRequest.Proofs.Fragment.Simulation
import SolrRequest.Proofs.Mapping
import SolrRequest.Request.Compile

/-!
# Mapping fields is renaming them

A compiler whose configuration maps fields compiles a query to the same request as a compiler
without mappings compiles the query in which every field has been renamed
(`Configuration.compile_eq_compile_rename`). So a mapping is looked up once for every field that is
written, wherever it stands, and never for what a mapping has given.

* `FieldMappings.rename` renames one field; `Query.rename` renames them everywhere.
* `simulation_fieldRenaming`: the renamed leaves have the same texts, which the renderer carries
  through trees.
* `Simulation.section_entries`, `Simulation.agree_namedObjects`: from trees to the parts of a
  request.
-/

namespace SolrRequest

open Text

/-! ## Renaming -/

/-- The field with the name that a mapping gives it; a blank name stays. -/
def FieldMappings.rename (m : FieldMappings) (domain : Option String) (f : Field) : Field :=
  if isBlank f.name then f else { f with name := m.resolve domain f }

/-- Renames fields and changes nothing else. -/
def fieldRenaming (rename : Field → Field) : Rewriting where
  field := rename
  value := id
  payload _ p := p

/-- The query with all its fields renamed: in its trees, functions and options, in the queries to
group by, and in the trees and queries given to functions. -/
def Query.rename (m : FieldMappings) (domain : Option String) (q : Query) : Query :=
  q.rewrite (fieldRenaming (m.rename domain))

/-! ## Fragments in scopes of one conversion -/

section Conversion

variable {s t : Scope} (hc : t.compiler.conversion = s.compiler.conversion)
include hc

theorem Scope.literal_congr : t.literal = s.literal := by
  funext v
  rw [Scope.literal, Scope.literal, hc]

theorem Scope.rangeText_congr : t.rangeText = s.rangeText := by
  have hbound : t.boundText = s.boundText := by
    funext b
    cases b with
    | none => rfl
    | some v => simp only [Scope.boundText, Scope.literal_congr hc]
  funext r
  simp only [Scope.rangeText, hbound]

/-- A fragment depends on the conversion and on the name of the field. -/
theorem Scope.plainFragment_congr {field field' : Option Field}
    (hf : ∀ key, t.spatialField key field' = s.spatialField key field) (rule : Rule)
    (p : Predicate) : t.plainFragment rule p field' = s.plainFragment rule p field := by
  have hliteral := Scope.literal_congr hc
  have hsingle : ∀ v, t.singleFragment rule p v = s.singleFragment rule p v := by
    intro v
    simp only [Scope.singleFragment, hliteral]
  have hgeo : ∀ g, t.geoFragment rule p field' g = s.geoFragment rule p field g := by
    intro g
    simp only [Scope.geoFragment, hf]
  simp only [Scope.plainFragment, hsingle, hgeo, hliteral, Scope.rangeText_congr hc]

end Conversion

/-- Renamed fields have in one scope the names that the fields have in the other. -/
theorem simulation_fieldRenaming {s t : Scope} {rename : Field → Field}
    (hc : t.compiler.conversion = s.compiler.conversion)
    (hstrict : t.compiler.configuration.strictFunctions =
      s.compiler.configuration.strictFunctions)
    (hname : ∀ f, t.fieldName (rename f) = s.fieldName f)
    (hboost : ∀ f, (rename f).boost = f.boost) : Simulation Eq (fieldRenaming rename) s t where
  respects := respects_eq
  strict := hstrict
  fieldName := hname
  boost := hboost
  value v := by
    rw [hc]
    rfl
  shape _ _ := rfl
  isNull _ _ := rfl
  check _ _ := rfl
  payload key field p := by
    have hspatial : ∀ key, t.spatialField key (field.map rename) = s.spatialField key field := by
      intro key
      cases field with
      | none => rfl
      | some f => exact hname f
    exact .of_eq (fun _ => rfl) (Scope.plainFragment_congr hc hspatial _ _).symm

/-! ## Sections -/

theorem mapM_map_eq {α β γ : Type} {f : α → Except Error γ} {g : β → Except Error γ} {r : α → β}
    (h : ∀ a, g (r a) = f a) (l : List α) : (l.map r).mapM g = l.mapM f := by
  have hcomp : g ∘ r = f := funext h
  rw [List.mapM_map, hcomp]

namespace Simulation

variable {w : Rewriting} {s t : Scope} (h : Simulation Eq w s t)
include h

theorem fragment_eq (nested : Bool) (n : Node) :
    (n.rewrite w).fragment t nested = n.fragment s nested := by
  have same : ∀ a b : Option String, Option.Rel Eq a b → a = b := by
    intro a b hab
    cases hab with
    | none => rfl
    | some hab => exact congrArg some hab
  exact ((h.agree_fragment nested n).eq_of same).symm

theorem queryText_eq (n : Node) : (n.rewrite w).queryText t = n.queryText s := by
  rw [Node.queryText, h.fragment_eq, Node.queryText]

theorem functionFragment_eq (level : Nat) (f : FunctionQuery) :
    (f.rewrite w).fragment t level = f.fragment s level := by
  rw [FunctionQuery.fragment, ← (h.agree_body f).eq_of fun _ _ => id, FunctionQuery.fragment]

theorem sortEntries_eq (name : String) (sort : Sorting) :
    sortEntries t name (sort.map (SortOrder.rewrite w)) = sortEntries s name sort := by
  have horder : ∀ o : SortOrder, (o.rewrite w).text t = o.text s := by
    intro o
    simp only [SortOrder.text, SortOrder.rewrite, h.fieldName]
  simp only [sortEntries, mapM_map_eq horder]

theorem filterEntries_eq (filters : List Node) :
    filterEntries t (Query.rewriteNodes w filters) = filterEntries s filters := by
  simp only [filterEntries, Query.rewriteNodes_eq_map, mapM_map_eq (h.fragment_eq false)]

theorem fieldEntries_eq (projection : List Field) (calculated : List CalculatedField) :
    fieldEntries t (projection.map w.field) (Query.rewriteCalculated w calculated) =
      fieldEntries s projection calculated := by
  have hcalculated : ∀ c : CalculatedField, (c.rewrite w).fragment t = c.fragment s := by
    rintro ⟨name, function⟩
    simp only [CalculatedField.rewrite, CalculatedField.fragment, h.functionFragment_eq]
    rfl
  simp only [fieldEntries, Query.rewriteCalculated_eq_map, mapM_map_eq h.fieldName,
    mapM_map_eq hcalculated]

theorem groupTexts_eq (g : GroupOptions) : (g.rewrite w).texts t = g.texts s := by
  obtain ⟨fields, functions, queries, limit, offset, sort, totalCount, main, facets, truncate,
    cachePercent⟩ := g
  have hfunction : ∀ f : FunctionQuery, (f.rewrite w).groupText t = f.groupText s := by
    intro f
    rw [FunctionQuery.groupText, h.functionFragment_eq, FunctionQuery.groupText]
  have hquery : ∀ q : Query, (q.rewrite w).groupText t = q.groupText s := by
    intro q
    rw [Query.groupText, Query.groupText, ← h.queryText_eq]
    cases q
    rfl
  simp only [GroupOptions.rewrite, GroupOptions.texts, GroupOptions.hasGroups,
    GroupOptions.rewriteFunctions_eq_map, GroupOptions.rewriteQueries_eq_map, List.isEmpty_map,
    mapM_map_eq h.fieldName, mapM_map_eq hfunction, mapM_map_eq hquery]
  rfl

theorem groupEntries_eq (g : GroupOptions) : (g.rewrite w).entries t = g.entries s := by
  rw [GroupOptions.entries, GroupOptions.entries, h.groupTexts_eq]
  cases g
  simp only [GroupOptions.rewrite, h.sortEntries_eq]
  rfl

theorem facetEntries_eq (o : FacetOptions) : (o.rewrite w).entries t = o.entries s := by
  obtain ⟨fields, queries, limit, minCount, sort, startingWith, offset, missing⟩ := o
  simp only [FacetOptions.rewrite, FacetOptions.entries, FacetOptions.hasFacets,
    Query.rewriteNodes_eq_map, List.isEmpty_map, mapM_map_eq h.fieldName,
    mapM_map_eq h.queryText_eq]
  rfl

/-- Every section of the request is the same. -/
theorem section_entries
    (hrows : t.compiler.configuration.defaultRows = s.compiler.configuration.defaultRows)
    (hoperator : t.compiler.configuration.defaultOperator =
      s.compiler.configuration.defaultOperator) (q : Query) (part : Section) :
    part.entries t (q.rewrite w) = part.entries s q := by
  obtain ⟨criteria, filters, projection, calculated, sort, offset, rows, groupOptions,
    facetOptions, operator, defType, handler, timeAllowed⟩ := q
  cases part with
  | query => simp only [Section.entries, Query.rewrite, h.queryText_eq]
  | filters => exact h.filterEntries_eq filters
  | fields => exact h.fieldEntries_eq projection calculated
  | sort => exact h.sortEntries_eq "sort" sort
  | rows => simp only [Section.entries, Query.rewrite, hrows]
  | operator => simp only [Section.entries, Query.rewrite, hoperator]
  | group =>
    cases groupOptions with
    | none => rfl
    | some g => exact h.groupEntries_eq g
  | facet =>
    cases facetOptions with
    | none => rfl
    | some o => exact h.facetEntries_eq o
  | start => rfl
  | defType => rfl
  | handler => rfl
  | timeAllowed => rfl

end Simulation

/-! ## Named objects -/

/-- The names of a table of entries depend on the names of the entries only. -/
theorem Table.names_ofEntries_congr {α : Type} {l m : List (String × α)}
    (h : l.map Prod.fst = m.map Prod.fst) :
    (Table.ofEntries l).names = (Table.ofEntries m).names := by
  have fold : ∀ (l m : List (String × α)), l.map Prod.fst = m.map Prod.fst →
      ∀ t u : Table α, t.names = u.names →
        (l.foldl (fun t e => Table.insert t e.1 e.2) t).names =
          (m.foldl (fun t e => Table.insert t e.1 e.2) u).names := by
    intro l
    induction l with
    | nil =>
      intro m hm t u htu
      cases m with
      | nil => exact htu
      | cons e r => cases hm
    | cons d l ih =>
      intro m hm t u htu
      cases m with
      | nil => cases hm
      | cons e r =>
        obtain ⟨hname, hrest⟩ := List.cons.inj hm
        refine ih r hrest _ _ ?_
        rw [Table.names_insert, Table.names_insert, htu, hname]
  exact fold l m h [] [] rfl

theorem map_fst_zip_map {α β : Type} (texts : List String) (l : List α) (f g : α → β) :
    (texts.zip (l.map f)).map Prod.fst = (texts.zip (l.map g)).map Prod.fst := by
  induction texts generalizing l with
  | nil => rfl
  | cons text r ih =>
    cases l with
    | nil => rfl
    | cons a l => simp only [List.map_cons, List.zip_cons_cons, ih l]

/-- The named objects of a query are under the same names as those of its rewriting. -/
theorem Simulation.agree_namedObjects {w : Rewriting} {s t : Scope} (h : Simulation Eq w s t)
    (q : Query) : Agree (fun a b => a.names = b.names) (q.namedObjects s)
      ((q.rewrite w).namedObjects t) := by
  obtain ⟨criteria, filters, projection, calculated, sort, offset, rows, groupOptions,
    facetOptions, operator, defType, handler, timeAllowed⟩ := q
  cases groupOptions with
  | none => exact .ok rfl
  | some g =>
    show Agree _ (g.named s) ((g.rewrite w).named t)
    rw [GroupOptions.named, GroupOptions.named, h.groupTexts_eq]
    refine .bind_left _ fun texts => .ok (Table.names_ofEntries_congr ?_)
    obtain ⟨fields, functions, queries, limit, offset, sort, totalCount, main, facets, truncate,
      cachePercent⟩ := g
    simp only [GroupOptions.rewrite, GroupOptions.rewriteFunctions_eq_map,
      GroupOptions.rewriteQueries_eq_map, List.map_append, List.map_map]
    rw [map_fst_zip_map texts.functions functions _
        (NamedObject.function ∘ FunctionQuery.rewrite w),
      map_fst_zip_map texts.queries queries _ (NamedObject.query ∘ Query.rewrite w)]

/-! ## Requests -/

mutual

/-- The bounds in a query are no leaves. -/
theorem Query.check_rewrite (w : Rewriting) : ∀ q : Query, (q.rewrite w).check = q.check
  | ⟨_, _, _, _, _, _, rows, options, _, _, _, _, _⟩ => by
    simp only [Query.rewrite, Query.check, Query.checkGroupOptions_rewrite w options]

theorem Query.checkGroupOptions_rewrite (w : Rewriting) : ∀ options : Option GroupOptions,
    Query.checkGroupOptions (Query.rewriteGroup w options) = Query.checkGroupOptions options
  | none => rfl
  | some g => by
    rw [Query.rewriteGroup, Query.checkGroupOptions, Query.checkGroupOptions,
      GroupOptions.check_rewrite w g]

theorem GroupOptions.check_rewrite (w : Rewriting) : ∀ g : GroupOptions,
    (g.rewrite w).check = g.check
  | ⟨_, _, queries, _, _, _, _, _, _, _, _⟩ => by
    simp only [GroupOptions.rewrite, GroupOptions.check,
      GroupOptions.checkQueries_rewrite w queries]

theorem GroupOptions.checkQueries_rewrite (w : Rewriting) : ∀ queries : List Query,
    GroupOptions.checkQueries (GroupOptions.rewriteQueries w queries) =
      GroupOptions.checkQueries queries
  | [] => rfl
  | q :: r => by
    rw [GroupOptions.rewriteQueries, GroupOptions.checkQueries, GroupOptions.checkQueries,
      Query.check_rewrite w q, GroupOptions.checkQueries_rewrite w r]

end

/-- What an index is asked, and the names under which its answers come back. -/
def Request.asked (r : Request) : Params × List String :=
  (r.params, r.named.names.names)

/-- Compilers that differ in their mappings only ask the same for a query and its rewriting. -/
theorem Simulation.compile_eq {w : Rewriting} {c d : Compiler} {domain domain' : Option String}
    (h : Simulation Eq w ⟨c, domain⟩ ⟨d, domain'⟩)
    (hrows : d.configuration.defaultRows = c.configuration.defaultRows)
    (hoperator : d.configuration.defaultOperator = c.configuration.defaultOperator) (q : Query) :
    (c.compile q domain).map Request.asked =
      (d.compile (q.rewrite w) domain').map Request.asked := by
  have hsections : (fun part : Section => part.entries ⟨d, domain'⟩ (q.rewrite w)) =
      fun part => part.entries ⟨c, domain⟩ q := funext (h.section_entries hrows hoperator q)
  have hagree : Agree (fun a b => a.asked = b.asked) (c.compile q domain)
      (d.compile (q.rewrite w) domain') := by
    simp only [Compiler.compile, Query.check_rewrite, hsections]
    refine .bind_left _ fun _ => .bind_left _ fun sections => ?_
    refine (h.agree_namedObjects q).bind fun names names' hnames => .ok ?_
    exact congrArg (Prod.mk _) hnames
  exact hagree.map_eq fun _ _ => id

/-- A conversion is made from the settings of a checked configuration. -/
theorem Conversion.exists_build {c : Configuration} (hc : c.check = .ok ()) :
    ∃ conversion, Conversion.build [] (some c.fractionDigits) = .ok conversion := by
  cases hdigits : Time.Precision.ofDigits? c.fractionDigits.toNat with
  | none =>
    simp only [Configuration.check, hdigits] at hc
    cases hc
  | some precision => exact ⟨⟨[], precision⟩, by simp only [Conversion.build, hdigits]; rfl⟩

/-- The configuration without mappings is checked when the configuration is, and so are its
mappings. -/
theorem Configuration.check_fields {c : Configuration} (hc : c.check = .ok ()) :
    Configuration.check { c with fields := .empty } = .ok () ∧ c.fields.check = .ok () := by
  unfold Configuration.check at hc ⊢
  by_cases hdigits : (Time.Precision.ofDigits? c.fractionDigits.toNat).isNone = true
  · rw [if_pos hdigits] at hc
    cases hc
  · rw [if_neg hdigits] at hc
    by_cases hrows : c.defaultRows = some 0
    · rw [if_pos hrows] at hc
      cases hc
    · rw [if_neg hrows] at hc
      exact ⟨by rw [if_neg hdigits, if_neg hrows]; rfl, hc⟩

/-- The fields of a compiler with checked mappings, and their renamings without mappings. -/
theorem FieldMappings.fieldName_rename {c d : Compiler} {m : FieldMappings}
    (hm : m.check = .ok ()) (hc : c.fieldName = m.resolve)
    (hd : d.fieldName = FieldMappings.empty.resolve) (domain : Option String) (f : Field) :
    Scope.fieldName ⟨d, none⟩ (m.rename domain f) = Scope.fieldName ⟨c, domain⟩ f := by
  unfold Scope.fieldName FieldMappings.rename Field.check
  by_cases hf : isBlank f.name = true
  · simp only [hf, if_true]
    rfl
  · have htarget := isBlank_resolve hm domain (Bool.eq_false_iff.mpr hf)
    simp only [hf, htarget, hc, hd, if_false, Bool.false_eq_true]
    rfl

/-- **Mapping fields is renaming them.** A checked configuration and the same one without mappings
make compilers that ask the same, the one for a query and the other for the renamed query. -/
theorem Configuration.compile_eq_compile_rename (c : Configuration)
    (conversion : Option Conversion) (hc : c.check = .ok ()) :
    ∃ mapped plain,
      Compiler.build c conversion none = .ok mapped ∧
      Compiler.build { c with fields := .empty } conversion none = .ok plain ∧
      ∀ (q : Query) (domain : Option String),
        (mapped.compile q domain).map Request.asked =
          (plain.compile (q.rename c.fields domain) none).map Request.asked := by
  obtain ⟨hempty, hmappings⟩ := c.check_fields hc
  have compilers : ∀ conversion : Conversion,
      let mapped : Compiler := ⟨c, conversion, c.fields.resolve⟩
      let plain : Compiler :=
        ⟨{ c with fields := .empty }, conversion, FieldMappings.empty.resolve⟩
      ∀ (q : Query) (domain : Option String),
        (mapped.compile q domain).map Request.asked =
          (plain.compile (q.rename c.fields domain) none).map Request.asked := by
    intro conversion mapped plain q domain
    have hboost : ∀ f, (c.fields.rename domain f).boost = f.boost := by
      intro f
      unfold FieldMappings.rename
      split <;> rfl
    have hname := FieldMappings.fieldName_rename (c := mapped) (d := plain) hmappings rfl rfl domain
    exact (simulation_fieldRenaming (s := ⟨mapped, domain⟩) (t := ⟨plain, none⟩) rfl rfl hname
      hboost).compile_eq rfl rfl q
  cases conversion with
  | some conversion =>
    refine ⟨_, _, ?_, ?_, compilers conversion⟩
    · rw [Compiler.build, hc]
      rfl
    · rw [Compiler.build, hempty]
      rfl
  | none =>
    obtain ⟨conversion, hconversion⟩ := Conversion.exists_build hc
    refine ⟨_, _, ?_, ?_, compilers conversion⟩
    · simp only [Compiler.build, hc, hconversion]
      rfl
    · simp only [Compiler.build, hempty, hconversion]
      rfl

/-- The query for the documents whose field holds the text `x`. -/
def queryOn (field : String) : Query :=
  .of (.criteria ((Criteria.on ⟨field, none⟩).equalTo (.text "x")))

/-- A title, which the index keeps in another field. -/
theorem title_renamed :
    let c : Configuration :=
      { Configuration.default with fields := ⟨[("Product", [("title", "title_t")])]⟩ }
    c.check = .ok () ∧
    ∃ mapped plain,
      Compiler.build c none none = .ok mapped ∧
      Compiler.build { c with fields := .empty } none none = .ok plain ∧
      (mapped.compile (queryOn "title") (some "Product")).map Request.asked =
        (plain.compile (queryOn "title_t") none).map Request.asked := by
  intro c
  have hc : c.check = .ok () := by decide
  obtain ⟨mapped, plain, hmapped, hplain, hasked⟩ :=
    Configuration.compile_eq_compile_rename c none hc
  have hrename : (queryOn "title").rename c.fields (some "Product") = queryOn "title_t" := rfl
  refine ⟨hc, mapped, plain, hmapped, hplain, ?_⟩
  rw [← hrename]
  exact hasked (queryOn "title") (some "Product")

end SolrRequest

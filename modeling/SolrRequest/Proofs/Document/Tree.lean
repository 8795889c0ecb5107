import SolrRequest.Document.Tree
import SolrRequest.Proofs.Document.Scalars
import SolrRequest.Proofs.Json.Reading
import SolrRequest.Proofs.Query.Rewriting

/-!
# Reading queries back

The document of a query denotes the query, and the JSON text of the document is read as the query
(`Query.ofText?_toJson`): nothing that is absent comes back as something, and no default replaces
what was written. All that a query can lose is the sign of a decimal zero (`Query.unsigned`), which
the comparison of decimals does not see.

The readers of trees are tied together level by level, so the induction follows the query while the
depth of its document bounds the levels that are still needed.
-/

namespace SolrRequest

open Number

/-! ## What can be written -/

mutual

/-- A function query whose arguments are written and read back. -/
def FunctionQuery.Writable : FunctionQuery → Prop
  | ⟨_, none⟩ => True
  | ⟨_, some arguments⟩ => FunctionQuery.ArgumentsWritable arguments

def FunctionQuery.ArgumentsWritable : List Argument → Prop
  | [] => True
  | a :: r => a.Writable ∧ FunctionQuery.ArgumentsWritable r

def Argument.Writable : Argument → Prop
  | .value v => v.Writable
  | .field f => f.Writable
  | .function f => f.Writable
  | .criteria n => n.Writable
  | .query q => q.Writable

def Payload.Writable : Payload → Prop
  | .null => True
  | .single v => v.Writable
  | .range r => r.Writable
  | .geo g => g.Writable
  | .fuzzy term similarity => term.Writable ∧ ∀ x ∈ similarity, Single.ReadsBack x
  | .sloppy phrase _ => phrase.Writable
  | .function f => f.Writable

/-- A predicate whose key is not a known one kept as an unknown one. -/
def Predicate.Writable : Predicate → Prop
  | ⟨key, payload⟩ => (∀ k ∈ key, k.Proper) ∧ payload.Writable

def Criteria.Writable : Criteria → Prop
  | ⟨field, predicates, _, boost⟩ =>
    (∀ f ∈ field, f.Writable) ∧ Criteria.PredicatesWritable predicates ∧
      ∀ x ∈ boost, Single.ReadsBack x

def Criteria.PredicatesWritable : List Predicate → Prop
  | [] => True
  | p :: r => p.Writable ∧ Criteria.PredicatesWritable r

def Node.Writable : Node → Prop
  | .criteria c => c.Writable
  | .raw _ => True
  | .group g => g.Writable

def ClauseGroup.Writable : ClauseGroup → Prop
  | ⟨clauses, _, _⟩ => ClauseGroup.ClausesWritable clauses

def ClauseGroup.ClausesWritable : List Clause → Prop
  | [] => True
  | c :: r => c.Writable ∧ ClauseGroup.ClausesWritable r

def Clause.Writable : Clause → Prop
  | ⟨_, node⟩ => node.Writable

def CalculatedField.Writable : CalculatedField → Prop
  | ⟨_, function⟩ => function.Writable

def GroupOptions.Writable : GroupOptions → Prop
  | ⟨fields, functions, queries, _, _, sort, _, _, _, _, _⟩ =>
    (∀ f ∈ fields, f.Writable) ∧ GroupOptions.FunctionsWritable functions ∧
      GroupOptions.QueriesWritable queries ∧ Sorting.Writable sort

def GroupOptions.FunctionsWritable : List FunctionQuery → Prop
  | [] => True
  | f :: r => f.Writable ∧ GroupOptions.FunctionsWritable r

def GroupOptions.QueriesWritable : List Query → Prop
  | [] => True
  | q :: r => q.Writable ∧ GroupOptions.QueriesWritable r

def FacetOptions.Writable : FacetOptions → Prop
  | ⟨fields, queries, _, _, _, _, _, _⟩ => (∀ f ∈ fields, f.Writable) ∧ Query.NodesWritable queries

def Query.NodesWritable : List Node → Prop
  | [] => True
  | n :: r => n.Writable ∧ Query.NodesWritable r

def Query.CalculatedWritable : List CalculatedField → Prop
  | [] => True
  | c :: r => c.Writable ∧ Query.CalculatedWritable r

def Query.GroupWritable : Option GroupOptions → Prop
  | none => True
  | some g => g.Writable

def Query.FacetWritable : Option FacetOptions → Prop
  | none => True
  | some o => o.Writable

/-- No value of an application is in the query, its numbers are read back, and no key of a predicate
is a known one kept as an unknown one. -/
def Query.Writable : Query → Prop
  | ⟨criteria, filters, projection, calculated, sort, _, _, groupOptions, facetOptions, _, _, _,
      _⟩ =>
    criteria.Writable ∧ Query.NodesWritable filters ∧ (∀ f ∈ projection, f.Writable) ∧
      Query.CalculatedWritable calculated ∧ Sorting.Writable sort ∧
      Query.GroupWritable groupOptions ∧ Query.FacetWritable facetOptions

end

/-! ## What can be lost -/

/-- Takes the sign off decimal zeros. -/
def signErasure : Rewriting where
  field := id
  value := Value.unsigned
  payload _ p := p.mapValues Value.unsigned

/-- The query with no sign on decimal zeros. -/
def Query.unsigned (q : Query) : Query :=
  q.rewrite signErasure

/-- Two queries are equal but for the signs of decimal zeros. Trailing zeros of decimals, absent
parts, empty parts and nulls all count. -/
def Query.Equal (a b : Query) : Prop :=
  a.unsigned = b.unsigned

theorem map_signErasure_field (l : List Field) : l.map signErasure.field = l :=
  List.map_id l

theorem optionMap_signErasure_field (o : Option Field) : o.map signErasure.field = o :=
  congrFun Option.map_id o

theorem Sorting.map_signErasure (s : Sorting) : s.map (SortOrder.rewrite signErasure) = s := by
  have hid : SortOrder.rewrite signErasure = id := rfl
  rw [hid, List.map_id]

/-! ## Members of records -/

theorem optionalText_denotes (s : Option String) :
    (optionalText s).Denotes (Reader.optional Reader.string) s :=
  .optional (fun t _ => .string t) fun _ => nofun

theorem optionalNat_denotes {α : Type} {toNat : α → Nat} {read : Reader α}
    (hread : ∀ a, (Json.ofNat (toNat a)).Denotes read a) (n : Option α) :
    (optionalNat toNat n).Denotes (Reader.optional read) n :=
  .optional (fun a _ => hread a) fun _ => nofun

theorem fields_denotes {fields : List Field} (h : ∀ f ∈ fields, f.Writable) :
    (Json.array (fields.map Field.toJson)).Denotes (Reader.list Field.ofDocument?) fields :=
  .list fun f hf => Field.denotes (h f hf)

theorem optionalSingle_denotes {x : Option Single} (h : ∀ y ∈ x, Single.ReadsBack y) :
    (Json.ofOption (x.map fun y => y.toJson)).Denotes (Reader.optional Reader.single) x := by
  cases x with
  | none => exact .none
  | some y => exact (Single.denotes (h y rfl)).some (h y rfl).toJson_ne_null

theorem predicateKey_denotes {key : Option PredicateKey} (h : ∀ k ∈ key, k.Proper) :
    (Json.ofOption (key.map (·.toJson))).Denotes
      (Reader.optional PredicateKey.ofDocument?) key := by
  have hkey : ∀ k ∈ key, k.toJson.Denotes PredicateKey.ofDocument? k := fun k hk =>
    ⟨fun _ => congrArg some (PredicateKey.ofText_text (h k hk)), rfl⟩
  exact .optional hkey fun _ => nofun

theorem fuzzy_denotes (function : Reader FunctionQuery) {term : Value}
    {similarity : Option Single} (hterm : term.Writable)
    (hsimilarity : ∀ x ∈ similarity, Single.ReadsBack x) :
    (Json.object [⟨"term", term.toJson⟩,
      ⟨"similarity", .ofOption (similarity.map fun x => x.toJson)⟩]).Denotes
      (fun d => Payload.ofContent? function "fuzzy" (some d))
      (.fuzzy term.unsigned similarity) := by
  have ht := Value.denotes hterm
  have hs := optionalSingle_denotes hsimilarity
  refine .objectRecord (by simp [Payload.fuzzyMembers]) (by simp) (fun held => ?_) ?_
  · simp [Members.required_given_cons, Members.withDefault_given_cons, ht.reads, hs.reads]
  · simp [ht.readable, hs.readable]

theorem sloppy_denotes (function : Reader FunctionQuery) {phrase : Value} (slop : UInt32)
    (hphrase : phrase.Writable) :
    (Json.object [⟨"phrase", phrase.toJson⟩, ⟨"slop", .ofNat slop.toNat⟩]).Denotes
      (fun d => Payload.ofContent? function "sloppy" (some d)) (.sloppy phrase.unsigned slop) := by
  have hp := Value.denotes hphrase
  have hs := Json.Denotes.uint32 slop
  refine .objectRecord (by simp [Payload.sloppyMembers]) (by simp) (fun held => ?_) ?_
  · simp [Members.required_given_cons, hp.reads, hs.reads]
  · simp [hp.readable, hs.readable]

theorem rawText_denotes (query : String) :
    (Json.object [⟨"query", .string query⟩]).Denotes Node.rawText? query := by
  refine .record (by simp [Node.rawMembers]) (by simp) (fun held => ?_) rfl
  simp [Members.required_given_cons, (Json.Denotes.string query).reads]

theorem depth_withTag (tag content name : String) (j : Json) :
    (withTag tag content name j).depth = j.depth + 1 := by
  simp [withTag, Json.depth, Json.membersDepth]

theorem Criteria.membersJson_ne (c : Criteria) (tag : String)
    (h : tag ∉ Criteria.members) : ∀ m ∈ c.membersJson, m.name ≠ tag := by
  obtain ⟨field, predicates, negating, boost⟩ := c
  have hnames : ∀ m ∈ Criteria.membersJson ⟨field, predicates, negating, boost⟩,
      m.name ∈ Criteria.members := by
    cases boost <;> simp [Criteria.membersJson, boostMember, Criteria.members]
  rintro m hm rfl
  exact h (hnames m hm)

theorem ClauseGroup.membersJson_ne (g : ClauseGroup) (tag : String)
    (h : tag ∉ ClauseGroup.members) : ∀ m ∈ g.membersJson, m.name ≠ tag := by
  obtain ⟨clauses, negating, chained⟩ := g
  have hnames : ∀ m ∈ ClauseGroup.membersJson ⟨clauses, negating, chained⟩,
      m.name ∈ ClauseGroup.members := by
    simp [ClauseGroup.membersJson, ClauseGroup.members]
  rintro m hm rfl
  exact h (hnames m hm)

/-! ## Following the tree -/

mutual

theorem FunctionQuery.denotes : ∀ (f : FunctionQuery) (levels : Nat), f.Writable →
    f.toJson.depth ≤ levels →
      f.toJson.Denotes (TreeReaders.upTo levels).function (f.rewrite signErasure)
  | ⟨_, none⟩, 0, _, hdepth => absurd hdepth (Nat.not_succ_le_zero _)
  | ⟨_, some _⟩, 0, _, hdepth => absurd hdepth (Nat.not_succ_le_zero _)
  | ⟨operation, none⟩, levels + 1, _, _ => by
    rw [FunctionQuery.toJson, FunctionQuery.rewrite]
    exact .record (by simp [FunctionQuery.members]) (by simp) (fun _ => rfl) rfl
  | ⟨operation, some arguments⟩, levels + 1, h, hdepth => by
    rw [FunctionQuery.Writable] at h
    simp only [FunctionQuery.toJson, Json.depth, Json.membersDepth, Nat.max_le,
      Nat.add_le_add_iff_right] at hdepth
    have harguments := (FunctionQuery.denotes_arguments arguments levels h (by omega)).some nofun
    rw [FunctionQuery.toJson, FunctionQuery.rewrite]
    refine .record (by simp [FunctionQuery.members]) (by simp) (fun held => ?_) ?_
    · simp [Members.required_given_cons, Members.withDefault_given_cons,
        (Json.Denotes.string operation).reads, harguments.reads]
    · simp [harguments.readable]

theorem FunctionQuery.denotes_arguments : ∀ (arguments : List Argument) (levels : Nat),
    FunctionQuery.ArgumentsWritable arguments →
    Json.itemsDepth (FunctionQuery.argumentsJson arguments) ≤ levels →
      (Json.array (FunctionQuery.argumentsJson arguments)).Denotes
        (Reader.list (TreeReaders.upTo levels).argument)
        (FunctionQuery.rewriteArguments signErasure arguments)
  | [], _, _, _ => .nil
  | a :: r, levels, h, hdepth => by
    rw [FunctionQuery.ArgumentsWritable] at h
    rw [FunctionQuery.argumentsJson, Json.itemsDepth, Nat.max_le] at hdepth
    rw [FunctionQuery.argumentsJson, FunctionQuery.rewriteArguments]
    exact .cons (Argument.denotes a levels h.1 hdepth.1)
      (FunctionQuery.denotes_arguments r levels h.2 hdepth.2)

theorem Argument.denotes : ∀ (a : Argument) (levels : Nat), a.Writable →
    a.toJson.depth ≤ levels →
      a.toJson.Denotes (TreeReaders.upTo levels).argument (a.rewrite signErasure)
  | a, 0, _, hdepth => by
    cases a <;> exact absurd hdepth (Nat.not_succ_le_zero _)
  | .value v, levels + 1, h, _ => by
    rw [Argument.Writable] at h
    rw [Argument.toJson, Argument.rewrite]
    exact .tagged Argument.kinds _ (by decide) ((Value.denotes h).map Argument.value)
  | .field f, levels + 1, h, _ => by
    rw [Argument.Writable] at h
    rw [Argument.toJson, Argument.rewrite]
    exact .tagged Argument.kinds _ (by decide) ((Field.denotes h).map Argument.field)
  | .function f, levels + 1, h, hdepth => by
    rw [Argument.Writable] at h
    rw [Argument.toJson, depth_withTag, Nat.add_le_add_iff_right] at hdepth
    rw [Argument.toJson, Argument.rewrite]
    exact .tagged Argument.kinds _ (by decide)
      ((FunctionQuery.denotes f levels h hdepth).map Argument.function)
  | .criteria n, levels + 1, h, hdepth => by
    rw [Argument.Writable] at h
    rw [Argument.toJson, depth_withTag, Nat.add_le_add_iff_right] at hdepth
    rw [Argument.toJson, Argument.rewrite]
    exact .tagged Argument.kinds _ (by decide)
      ((Node.denotes n levels h hdepth).map Argument.criteria)
  | .query q, levels + 1, h, hdepth => by
    rw [Argument.Writable] at h
    rw [Argument.toJson, depth_withTag, Nat.add_le_add_iff_right] at hdepth
    rw [Argument.toJson, Argument.rewrite]
    exact .tagged Argument.kinds _ (by decide)
      ((Query.denotes q levels h hdepth).map Argument.query)

theorem Payload.denotes : ∀ (p : Payload) (key : Option PredicateKey) (levels : Nat),
    p.Writable → p.toJson.depth ≤ levels →
      p.toJson.Denotes (TreeReaders.upTo levels).payload
        ((Predicate.mk key p).rewrite signErasure).payload
  | p, _, 0, _, hdepth => by
    cases p <;> exact absurd hdepth (Nat.not_succ_le_zero _)
  | .null, key, levels + 1, _, _ => by
    refine ⟨fun held => ?_, rfl⟩
    show Payload.reader _ _ = _
    rw [Payload.reader, Payload.toJson,
      Document.tagged?_alone Payload.shapes "null" held (by decide)]
    rfl
  | .single v, key, levels + 1, h, _ => by
    rw [Payload.Writable] at h
    rw [Payload.toJson, Predicate.rewrite]
    exact .tagged Payload.shapes _ (by decide) ((Value.denotes h).map Payload.single)
    · exact nofun
  | .range r, key, levels + 1, h, _ => by
    rw [Payload.Writable] at h
    rw [Payload.toJson, Predicate.rewrite]
    exact .tagged Payload.shapes _ (by decide) ((ValueRange.denotes h).map Payload.range)
    · exact nofun
  | .geo g, key, levels + 1, h, _ => by
    rw [Payload.Writable] at h
    rw [Payload.toJson, Predicate.rewrite]
    exact .tagged Payload.shapes _ (by decide) ((GeoShape.denotes h).map Payload.geo)
    · exact nofun
  | .fuzzy term similarity, key, levels + 1, h, _ => by
    rw [Payload.Writable] at h
    rw [Payload.toJson, Predicate.rewrite]
    exact .tagged Payload.shapes _ (by decide) (fuzzy_denotes _ h.1 h.2)
    · exact nofun
  | .sloppy phrase slop, key, levels + 1, h, _ => by
    rw [Payload.Writable] at h
    rw [Payload.toJson, Predicate.rewrite]
    exact .tagged Payload.shapes _ (by decide) (sloppy_denotes _ slop h)
    · exact nofun
  | .function f, key, levels + 1, h, hdepth => by
    rw [Payload.Writable] at h
    rw [Payload.toJson, depth_withTag, Nat.add_le_add_iff_right] at hdepth
    rw [Payload.toJson, Predicate.rewrite]
    exact .tagged Payload.shapes _ (by decide)
      ((FunctionQuery.denotes f levels h hdepth).map Payload.function)

theorem Predicate.denotes : ∀ (p : Predicate) (levels : Nat), p.Writable →
    p.toJson.depth ≤ levels →
      p.toJson.Denotes (TreeReaders.upTo levels).predicate (p.rewrite signErasure)
  | ⟨_, _⟩, 0, _, hdepth => absurd hdepth (Nat.not_succ_le_zero _)
  | ⟨key, payload⟩, levels + 1, h, hdepth => by
    rw [Predicate.Writable] at h
    simp only [Predicate.toJson, Json.depth, Json.membersDepth, Nat.max_le,
      Nat.add_le_add_iff_right] at hdepth
    have hkey := predicateKey_denotes h.1
    have hpayload := Payload.denotes payload key levels h.2 hdepth.2.1
    have hrewrite : (Predicate.mk key payload).rewrite signErasure =
        ⟨key, ((Predicate.mk key payload).rewrite signErasure).payload⟩ := by
      cases payload <;> rfl
    rw [Predicate.toJson, hrewrite]
    refine .record (by simp [Predicate.members]) (by simp) (fun held => ?_) ?_
    · simp [Members.withDefault_given_cons, hkey.reads, hpayload.reads]
    · simp [hkey.readable, hpayload.readable]

theorem Criteria.denotes_predicates : ∀ (predicates : List Predicate) (levels : Nat),
    Criteria.PredicatesWritable predicates →
    Json.itemsDepth (Criteria.predicatesJson predicates) ≤ levels →
      (Json.array (Criteria.predicatesJson predicates)).Denotes
        (Reader.list (TreeReaders.upTo levels).predicate)
        (Criteria.rewritePredicates signErasure predicates)
  | [], _, _, _ => .nil
  | p :: r, levels, h, hdepth => by
    rw [Criteria.PredicatesWritable] at h
    rw [Criteria.predicatesJson, Json.itemsDepth, Nat.max_le] at hdepth
    rw [Criteria.predicatesJson, Criteria.rewritePredicates]
    exact .cons (Predicate.denotes p levels h.1 hdepth.1)
      (Criteria.denotes_predicates r levels h.2 hdepth.2)

theorem Criteria.denotes : ∀ (c : Criteria) (levels : Nat), c.Writable →
    Json.membersDepth c.membersJson ≤ levels →
      c.toJson.Denotes (Criteria.reader (TreeReaders.upTo levels).predicate)
        (c.rewrite signErasure)
  | ⟨field, predicates, negating, boost⟩, levels, h, hdepth => by
    rw [Criteria.Writable] at h
    simp only [Criteria.membersJson, Json.membersDepth, Json.depth, Nat.max_le] at hdepth
    have hfield := Json.Denotes.optional (fun f hf => Field.denotes (h.1 f hf)) fun _ => nofun
    have hpredicates := Criteria.denotes_predicates predicates levels h.2.1 (by omega)
    rw [Criteria.toJson, Criteria.membersJson, Criteria.rewrite, optionMap_signErasure_field]
    refine .record (by cases boost <;> simp [boostMember, Criteria.members])
      (by cases boost <;> simp [boostMember]) (fun held => ?_) ?_
    · simp [Members.withDefault_given_cons, hfield.reads, hpredicates.reads,
        (Json.Denotes.bool negating).reads, boostMember_reads h.2.2]
    · simp [hfield.readable, hpredicates.readable, boostMember_readable h.2.2]

theorem Node.denotes : ∀ (n : Node) (levels : Nat), n.Writable → n.toJson.depth ≤ levels →
    n.toJson.Denotes (TreeReaders.upTo levels).node (n.rewrite signErasure)
  | n, 0, _, hdepth => by
    cases n <;> exact absurd hdepth (Nat.not_succ_le_zero _)
  | .criteria c, levels + 1, h, hdepth => by
    rw [Node.Writable] at h
    simp only [Node.toJson, Json.depth, Json.membersDepth, Nat.max_le,
      Nat.add_le_add_iff_right] at hdepth
    rw [Node.toJson, Node.rewrite]
    exact .taggedRecord Node.tags _ (c.membersJson_ne "node" (by decide))
      ((Criteria.denotes c levels h hdepth.2).map Node.criteria)
  | .raw query, levels + 1, _, _ => by
    rw [Node.toJson, Node.rewrite]
    exact .taggedRecord Node.tags _ (by simp) ((rawText_denotes query).map Node.raw)
  | .group g, levels + 1, h, hdepth => by
    rw [Node.Writable] at h
    simp only [Node.toJson, Json.depth, Json.membersDepth, Nat.max_le,
      Nat.add_le_add_iff_right] at hdepth
    rw [Node.toJson, Node.rewrite]
    exact .taggedRecord Node.tags _ (g.membersJson_ne "node" (by decide))
      ((ClauseGroup.denotes g levels h hdepth.2).map Node.group)

theorem ClauseGroup.denotes : ∀ (g : ClauseGroup) (levels : Nat), g.Writable →
    Json.membersDepth g.membersJson ≤ levels →
      (Json.object g.membersJson).Denotes (ClauseGroup.reader (TreeReaders.upTo levels).clause)
        (g.rewrite signErasure)
  | ⟨clauses, negating, chained⟩, levels, h, hdepth => by
    rw [ClauseGroup.Writable] at h
    simp only [ClauseGroup.membersJson, Json.membersDepth, Json.depth, Nat.max_le] at hdepth
    have hclauses := ClauseGroup.denotes_clauses clauses levels h (by omega)
    rw [ClauseGroup.membersJson, ClauseGroup.rewrite]
    refine .record (by simp [ClauseGroup.members]) (by simp) (fun held => ?_) ?_
    · simp [Members.withDefault_given_cons, hclauses.reads, (Json.Denotes.bool negating).reads,
        (Json.Denotes.bool chained).reads]
    · simp [hclauses.readable]

theorem ClauseGroup.denotes_clauses : ∀ (clauses : List Clause) (levels : Nat),
    ClauseGroup.ClausesWritable clauses →
    Json.itemsDepth (ClauseGroup.clausesJson clauses) ≤ levels →
      (Json.array (ClauseGroup.clausesJson clauses)).Denotes
        (Reader.list (TreeReaders.upTo levels).clause)
        (ClauseGroup.rewriteClauses signErasure clauses)
  | [], _, _, _ => .nil
  | c :: r, levels, h, hdepth => by
    rw [ClauseGroup.ClausesWritable] at h
    rw [ClauseGroup.clausesJson, Json.itemsDepth, Nat.max_le] at hdepth
    rw [ClauseGroup.clausesJson, ClauseGroup.rewriteClauses]
    exact .cons (Clause.denotes c levels h.1 hdepth.1)
      (ClauseGroup.denotes_clauses r levels h.2 hdepth.2)

theorem Clause.denotes : ∀ (c : Clause) (levels : Nat), c.Writable → c.toJson.depth ≤ levels →
    c.toJson.Denotes (TreeReaders.upTo levels).clause (c.rewrite signErasure)
  | ⟨_, _⟩, 0, _, hdepth => absurd hdepth (Nat.not_succ_le_zero _)
  | ⟨junction, node⟩, levels + 1, h, hdepth => by
    rw [Clause.Writable] at h
    simp only [Clause.toJson, Json.depth, Json.membersDepth, Nat.max_le,
      Nat.add_le_add_iff_right] at hdepth
    have hjunction := junction.denotes
    have hnode := Node.denotes node levels h hdepth.2.1
    rw [Clause.toJson, Clause.rewrite]
    refine .record (by simp [Clause.members]) (by simp) (fun held => ?_) ?_
    · simp [Members.withDefault_given_cons, Members.required_given_cons, hjunction.reads,
        hnode.reads]
    · simp [hjunction.readable, hnode.readable]

theorem CalculatedField.denotes : ∀ (c : CalculatedField) (levels : Nat), c.Writable →
    c.toJson.depth ≤ levels →
      c.toJson.Denotes (TreeReaders.upTo levels).calculated (c.rewrite signErasure)
  | ⟨_, _⟩, 0, _, hdepth => absurd hdepth (Nat.not_succ_le_zero _)
  | ⟨name, function⟩, levels + 1, h, hdepth => by
    rw [CalculatedField.Writable] at h
    simp only [CalculatedField.toJson, Json.depth, Json.membersDepth, Nat.max_le,
      Nat.add_le_add_iff_right] at hdepth
    have hname := optionalText_denotes name
    have hfunction := FunctionQuery.denotes function levels h hdepth.2.1
    rw [CalculatedField.toJson, CalculatedField.rewrite]
    refine .record (by simp [CalculatedField.members]) (by simp) (fun held => ?_) ?_
    · simp [Members.withDefault_given_cons, Members.required_given_cons, hname.reads,
        hfunction.reads]
    · simp [hname.readable, hfunction.readable]

theorem GroupOptions.denotes_functions : ∀ (functions : List FunctionQuery) (levels : Nat),
    GroupOptions.FunctionsWritable functions →
    Json.itemsDepth (GroupOptions.functionsJson functions) ≤ levels →
      (Json.array (GroupOptions.functionsJson functions)).Denotes
        (Reader.list (TreeReaders.upTo levels).function)
        (GroupOptions.rewriteFunctions signErasure functions)
  | [], _, _, _ => .nil
  | f :: r, levels, h, hdepth => by
    rw [GroupOptions.FunctionsWritable] at h
    rw [GroupOptions.functionsJson, Json.itemsDepth, Nat.max_le] at hdepth
    rw [GroupOptions.functionsJson, GroupOptions.rewriteFunctions]
    exact .cons (FunctionQuery.denotes f levels h.1 hdepth.1)
      (GroupOptions.denotes_functions r levels h.2 hdepth.2)

theorem GroupOptions.denotes_queries : ∀ (queries : List Query) (levels : Nat),
    GroupOptions.QueriesWritable queries →
    Json.itemsDepth (GroupOptions.queriesJson queries) ≤ levels →
      (Json.array (GroupOptions.queriesJson queries)).Denotes
        (Reader.list (TreeReaders.upTo levels).query)
        (GroupOptions.rewriteQueries signErasure queries)
  | [], _, _, _ => .nil
  | q :: r, levels, h, hdepth => by
    rw [GroupOptions.QueriesWritable] at h
    rw [GroupOptions.queriesJson, Json.itemsDepth, Nat.max_le] at hdepth
    rw [GroupOptions.queriesJson, GroupOptions.rewriteQueries]
    exact .cons (Query.denotes q levels h.1 hdepth.1)
      (GroupOptions.denotes_queries r levels h.2 hdepth.2)

theorem GroupOptions.denotes : ∀ (g : GroupOptions) (levels : Nat), g.Writable →
    g.toJson.depth ≤ levels →
      g.toJson.Denotes (TreeReaders.upTo levels).group (g.rewrite signErasure)
  | ⟨_, _, _, _, _, _, _, _, _, _, _⟩, 0, _, hdepth => absurd hdepth (Nat.not_succ_le_zero _)
  | ⟨fields, functions, queries, limit, offset, sort, totalCount, main, facets, truncate,
      cachePercent⟩, levels + 1, h, hdepth => by
    rw [GroupOptions.Writable] at h
    simp only [GroupOptions.toJson, Json.depth, Json.membersDepth, Nat.max_le,
      Nat.add_le_add_iff_right] at hdepth
    have hfields := fields_denotes h.1
    have hfunctions := GroupOptions.denotes_functions functions levels h.2.1 (by omega)
    have hqueries := GroupOptions.denotes_queries queries levels h.2.2.1 (by omega)
    have hlimit := Json.Denotes.optional (o := limit) (fun n _ => Json.Denotes.int32 n)
      fun _ => nofun
    have hoffset := optionalNat_denotes Json.Denotes.uint32 offset
    have hsort := Sorting.denotes h.2.2.2
    have hcache := Json.Denotes.uint8 cachePercent
    rw [GroupOptions.toJson, GroupOptions.rewrite, map_signErasure_field, Sorting.map_signErasure]
    refine .record (by simp [GroupOptions.members]) (by simp) (fun held => ?_) ?_
    · simp only [Reader.some_bind, Members.withDefault_given_cons, reduceIte, String.reduceEq,
        hfields.reads, hfunctions.reads, hqueries.reads, hlimit.reads, hoffset.reads, hsort.reads,
        hcache.reads, (Json.Denotes.bool _).reads]
      rfl
    · simp [hfields.readable, hfunctions.readable, hqueries.readable,
        hlimit.readable, hoffset.readable, hsort.readable, hcache.readable]

theorem FacetOptions.denotes : ∀ (o : FacetOptions) (levels : Nat), o.Writable →
    o.toJson.depth ≤ levels →
      o.toJson.Denotes (TreeReaders.upTo levels).facet (o.rewrite signErasure)
  | ⟨_, _, _, _, _, _, _, _⟩, 0, _, hdepth => absurd hdepth (Nat.not_succ_le_zero _)
  | ⟨fields, queries, limit, minCount, sort, startingWith, offset, missing⟩, levels + 1, h,
      hdepth => by
    rw [FacetOptions.Writable] at h
    simp only [FacetOptions.toJson, Json.depth, Json.membersDepth, Nat.max_le,
      Nat.add_le_add_iff_right] at hdepth
    have hfields := fields_denotes h.1
    have hqueries := Query.denotes_nodes queries levels h.2 (by omega)
    have hlimit := Json.Denotes.uint32 limit
    have hminCount := Json.Denotes.uint32 minCount
    have hsort := sort.denotes
    have hstart := optionalText_denotes startingWith
    have hoffset := optionalNat_denotes Json.Denotes.uint32 offset
    rw [FacetOptions.toJson, FacetOptions.rewrite, map_signErasure_field]
    refine .record (by simp [FacetOptions.members]) (by simp) (fun held => ?_) ?_
    · simp only [Reader.some_bind, Members.withDefault_given_cons, reduceIte, String.reduceEq,
        hfields.reads, hqueries.reads, hlimit.reads, hminCount.reads, hsort.reads, hstart.reads,
        hoffset.reads, (Json.Denotes.bool _).reads]
      rfl
    · simp [hfields.readable, hqueries.readable, hlimit.readable,
        hminCount.readable, hsort.readable, hstart.readable, hoffset.readable]

theorem Query.denotes_nodes : ∀ (nodes : List Node) (levels : Nat),
    Query.NodesWritable nodes → Json.itemsDepth (Query.nodesJson nodes) ≤ levels →
      (Json.array (Query.nodesJson nodes)).Denotes (Reader.list (TreeReaders.upTo levels).node)
        (Query.rewriteNodes signErasure nodes)
  | [], _, _, _ => .nil
  | n :: r, levels, h, hdepth => by
    rw [Query.NodesWritable] at h
    rw [Query.nodesJson, Json.itemsDepth, Nat.max_le] at hdepth
    rw [Query.nodesJson, Query.rewriteNodes]
    exact .cons (Node.denotes n levels h.1 hdepth.1) (Query.denotes_nodes r levels h.2 hdepth.2)

theorem Query.denotes_calculated : ∀ (calculated : List CalculatedField) (levels : Nat),
    Query.CalculatedWritable calculated →
    Json.itemsDepth (Query.calculatedJson calculated) ≤ levels →
      (Json.array (Query.calculatedJson calculated)).Denotes
        (Reader.list (TreeReaders.upTo levels).calculated)
        (Query.rewriteCalculated signErasure calculated)
  | [], _, _, _ => .nil
  | c :: r, levels, h, hdepth => by
    rw [Query.CalculatedWritable] at h
    rw [Query.calculatedJson, Json.itemsDepth, Nat.max_le] at hdepth
    rw [Query.calculatedJson, Query.rewriteCalculated]
    exact .cons (CalculatedField.denotes c levels h.1 hdepth.1)
      (Query.denotes_calculated r levels h.2 hdepth.2)

theorem Query.denotes_group : ∀ (options : Option GroupOptions) (levels : Nat),
    Query.GroupWritable options → (Query.groupJson options).depth ≤ levels →
      (Query.groupJson options).Denotes (Reader.optional (TreeReaders.upTo levels).group)
        (Query.rewriteGroup signErasure options)
  | none, _, _, _ => .none
  | some g, levels, h, hdepth => by
    rw [Query.GroupWritable] at h
    rw [Query.groupJson] at hdepth
    rw [Query.groupJson, Query.rewriteGroup]
    exact (GroupOptions.denotes g levels h hdepth).some (by cases g; exact nofun)

theorem Query.denotes_facet : ∀ (options : Option FacetOptions) (levels : Nat),
    Query.FacetWritable options → (Query.facetJson options).depth ≤ levels →
      (Query.facetJson options).Denotes (Reader.optional (TreeReaders.upTo levels).facet)
        (Query.rewriteFacet signErasure options)
  | none, _, _, _ => .none
  | some o, levels, h, hdepth => by
    rw [Query.FacetWritable] at h
    rw [Query.facetJson] at hdepth
    rw [Query.facetJson, Query.rewriteFacet]
    exact (FacetOptions.denotes o levels h hdepth).some (by cases o; exact nofun)

/-- The document of a query is read as the query. -/
theorem Query.denotes : ∀ (q : Query) (levels : Nat), q.Writable → q.toJson.depth ≤ levels →
    q.toJson.Denotes (TreeReaders.upTo levels).query (q.rewrite signErasure)
  | ⟨_, _, _, _, _, _, _, _, _, _, _, _, _⟩, 0, _, hdepth =>
    absurd hdepth (Nat.not_succ_le_zero _)
  | ⟨criteria, filters, projection, calculated, sort, offset, rows, groupOptions, facetOptions,
      operator, defType, handler, timeAllowed⟩, levels + 1, h, hdepth => by
    rw [Query.Writable] at h
    obtain ⟨hcriteria, hfilters, hprojection, hcalculated, hsort, hgroup, hfacet⟩ := h
    simp only [Query.toJson, Json.depth, Json.membersDepth, Nat.max_le,
      Nat.add_le_add_iff_right] at hdepth
    have hcriteria := Node.denotes criteria levels hcriteria (by omega)
    have hfilters := Query.denotes_nodes filters levels hfilters (by omega)
    have hprojection := fields_denotes hprojection
    have hcalculated := Query.denotes_calculated calculated levels hcalculated (by omega)
    have hsort := Sorting.denotes hsort
    have hoffset := optionalNat_denotes Json.Denotes.uint64 offset
    have hrows := optionalNat_denotes Json.Denotes.uint32 rows
    have hgroup := Query.denotes_group groupOptions levels hgroup (by omega)
    have hfacet := Query.denotes_facet facetOptions levels hfacet (by omega)
    have hoperator := Json.Denotes.optional (o := operator) (fun o _ => Operator.denotes o)
      fun _ => nofun
    have hdefType := optionalText_denotes defType
    have hhandler := optionalText_denotes handler
    have htime := optionalNat_denotes Json.Denotes.uint32 timeAllowed
    rw [Query.toJson, Query.rewrite, map_signErasure_field, Sorting.map_signErasure]
    refine .record (by simp [Query.members]) (by simp) (fun held => ?_) ?_
    · simp only [Reader.some_bind, Members.withDefault_given_cons, reduceIte, String.reduceEq,
        hcriteria.reads, hfilters.reads, hprojection.reads, hcalculated.reads, hsort.reads,
        hoffset.reads, hrows.reads, hgroup.reads, hfacet.reads, hoperator.reads, hdefType.reads,
        hhandler.reads, htime.reads]
      rfl
    · simp [hcriteria.readable, hfilters.readable, hprojection.readable,
        hcalculated.readable, hsort.readable, hoffset.readable, hrows.readable, hgroup.readable,
        hfacet.readable, hoperator.readable, hdefType.readable, hhandler.readable, htime.readable]

end

/-! ## Texts -/

theorem signErasure_stable : signErasure.Stable where
  field _ := rfl
  value := Value.unsigned_unsigned
  shape _ p := by cases p <;> rfl
  payload _ p := by
    have hbound : ∀ b : Option Value, (b.map Value.unsigned).map Value.unsigned =
        b.map Value.unsigned := by
      intro b
      cases b with
      | none => rfl
      | some v => exact congrArg some v.unsigned_unsigned
    cases p with
    | range r => simp only [signErasure, Payload.mapValues, hbound]
    | single v => simp only [signErasure, Payload.mapValues, Value.unsigned_unsigned]
    | fuzzy term x => simp only [signErasure, Payload.mapValues, Value.unsigned_unsigned]
    | sloppy phrase n => simp only [signErasure, Payload.mapValues, Value.unsigned_unsigned]
    | _ => rfl

theorem Query.unsigned_equal (q : Query) : q.unsigned.Equal q :=
  q.rewrite_rewrite signErasure_stable

/-- The text of a query is read as the query without signs on decimal zeros. -/
theorem Query.ofText?_toJson {q : Query} (h : q.Writable)
    (hdepth : q.toJson.depth ≤ Json.maxDepth) :
    q.toJson.text? = some q.toJson.text ∧ Query.ofText? q.toJson.text = some q.unsigned := by
  have hdenotes := Query.denotes q (Json.maxDepth + 1) h (Nat.le_succ_of_le hdepth)
  have hwhole := Json.isWhole_of_isReadable q.toJson hdenotes.readable
  refine ⟨if_pos hwhole, ?_⟩
  rw [Query.ofText?, Json.parse?_text hwhole hdepth]
  exact hdenotes.reads false

/-- **Queries read back.** A query of values that have documents is written, unless its document is
nested too deeply, and what is written is read as an equal query. -/
theorem Query.text_reads_back (q : Query) (h : q.Writable)
    (hdepth : q.toJson.depth ≤ Json.maxDepth) :
    ∃ text r, q.toJson.text? = some text ∧ Query.ofText? text = some r ∧ r.Equal q := by
  obtain ⟨htext, hread⟩ := Query.ofText?_toJson h hdepth
  exact ⟨q.toJson.text, q.unsigned, htext, hread, q.unsigned_equal⟩

/-- A query in which absent parts, empty ones and nulls stand beside each other. -/
def queryOfGaps : Query :=
  let gaps : List Predicate :=
    [⟨some (.known .equals), .null⟩, ⟨none, .single .null⟩,
      ⟨some (.known .between), .range ⟨none, some .null, true, false⟩⟩,
      ⟨some (.custom "near"), .fuzzy (.text "a\"\\") (some (.ofRank false 0x3F000000))⟩]
  { Query.default with
    criteria := .group ⟨[
      ⟨.or, .criteria ⟨some ⟨"t", none⟩, gaps, true, some (.ofRank false 0x3FC00000)⟩⟩,
      ⟨.and, .raw ""⟩], false, true⟩
    filters := [.empty]
    calculated := [⟨none, ⟨"now", none⟩⟩, ⟨some "", ⟨"sum", some [
      .query .default, .value (.decimal ⟨true, 0, 2, by decide, by decide⟩)]⟩⟩,
      ⟨some "now", ⟨"now", some []⟩⟩]
    groupOptions := some .default
    facetOptions := some .default
    handler := some "" }

/-- All gaps are kept. -/
theorem queryOfGaps_reads_back :
    queryOfGaps.Writable ∧ queryOfGaps.toJson.depth ≤ Json.maxDepth ∧
    ∃ text r, queryOfGaps.toJson.text? = some text ∧ Query.ofText? text = some r ∧
      r.Equal queryOfGaps := by
  have hboost : Single.ReadsBack (.ofRank false 0x3FC00000) := by
    unfold Single.ReadsBack Floating.ReadsBack
    decide +kernel
  have hsimilarity : Single.ReadsBack (.ofRank false 0x3F000000) := by
    unfold Single.ReadsBack Floating.ReadsBack
    decide +kernel
  have hkey : Operation.ofKey? "near" = none := by decide
  have hw : queryOfGaps.Writable := by
    simp [queryOfGaps, Query.Writable, Query.default, Node.Writable, ClauseGroup.Writable,
      ClauseGroup.ClausesWritable, Clause.Writable, Criteria.Writable, Criteria.PredicatesWritable,
      Predicate.Writable, PredicateKey.Proper, Payload.Writable, ValueRange.Writable,
      Value.Writable, Field.Writable, Query.NodesWritable, Node.empty, ClauseGroup.empty,
      Query.CalculatedWritable, CalculatedField.Writable, FunctionQuery.Writable,
      FunctionQuery.ArgumentsWritable, Argument.Writable, Sorting.Writable, Query.GroupWritable,
      GroupOptions.Writable, GroupOptions.default, GroupOptions.FunctionsWritable,
      GroupOptions.QueriesWritable, Query.FacetWritable, FacetOptions.Writable,
      FacetOptions.default, hboost, hsimilarity, hkey]
  have hdepth : queryOfGaps.toJson.depth ≤ Json.maxDepth := by decide
  exact ⟨hw, hdepth, Query.text_reads_back queryOfGaps hw hdepth⟩

end SolrRequest

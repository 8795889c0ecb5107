import Mathlib.Logic.Relation
import SolrRequest.Proofs.Document.Records

/-!
# Queries are read from their known members

`Query.ofDocument?_of_edits`: edits of a query's document do not change what is read from it. Where
nothing is dropped, they do not change either whether anything is read.

Every reader that a query's document is given to is stable on the form of what it reads. The readers
of trees refer to each other, so theirs is one statement for each level of nesting
(`TreeReaders.stable_upTo`). That a member reads to its default is the same on every level, because
no default has parts (`Payload.reader_null`, `Node.reader_empty`).
-/

namespace SolrRequest

open Document Number

section Values

variable {drops : Bool}

/-! ## Scalars -/

namespace Stable

theorem string : Stable drops Reader.string .leaf :=
  .leaf fun j _ _ => by cases j <;> rfl

theorem bool : Stable drops Reader.bool .leaf :=
  .leaf fun j _ _ => by cases j <;> rfl

theorem double : Stable drops Reader.double .leaf :=
  .leaf fun j _ _ => by cases j <;> rfl

theorem single : Stable drops Reader.single .leaf :=
  .leaf fun j _ _ => by cases j <;> rfl

theorem integer (low high : Int) : Stable drops (Reader.integer low high) .leaf :=
  .leaf fun j _ _ => by cases j <;> rfl

theorem uint8 : Stable drops Reader.uint8 .leaf :=
  (integer 0 0xFF).map fun i => UInt8.ofNat i.toNat

theorem uint32 : Stable drops Reader.uint32 .leaf :=
  (integer 0 0xFFFFFFFF).map fun i => UInt32.ofNat i.toNat

theorem uint64 : Stable drops Reader.uint64 .leaf :=
  (integer 0 0xFFFFFFFFFFFFFFFF).map fun i => UInt64.ofNat i.toNat

theorem int32 : Stable drops Reader.int32 .leaf :=
  (integer _ _).map Int32.ofInt

theorem int64 : Stable drops Reader.int64 .leaf :=
  (integer _ _).map Int64.ofInt

theorem decimal : Stable drops Decimal.ofDocument? .leaf :=
  .leaf fun j _ _ => by cases j <;> rfl

theorem instant : Stable drops Time.Instant.ofDocument? .leaf :=
  .leaf fun j _ _ => by cases j <;> rfl

end Stable

/-! ## Places -/

theorem Point.stable : Stable drops Point.ofDocument? (.record .point) :=
  .record rfl <| .required 0 rfl .double fun _ => .required 1 rfl .double fun _ => .pure _

theorem Distance.stable : Stable drops Distance.ofDocument? (.record .distance) :=
  .record rfl <| .required 0 rfl .double fun _ =>
    .plain 1 rfl (.choice Metric.names) fun _ => .pure _

theorem GeoBox.stable : Stable drops GeoBox.ofDocument? (.record .bounds) :=
  .record rfl <| .required 0 rfl Point.stable fun _ =>
    .required 1 rfl Point.stable fun _ => .pure _

/-! ## Values and areas -/

/-- What is read from a content is read from its variants. -/
theorem Stable.content {α : Type} {read : Reader α} {f : Form} {c c' : Option Document}
    (h : Stable drops read f) (hrel : Option.Rel (Varies drops f) c c') {a : α}
    (ha : c.bind read = some a) : c'.bind read = some a := by
  cases hrel with
  | none => exact ha
  | some hvaries => exact h _ _ a hvaries ha

theorem Varies.value_of_leaf {d d' : Document} (h : Varies drops .leaf d d') :
    d.value = d'.value := by
  cases h with
  | same d => rfl
  | edited _ hedit => exact absurd rfl hedit.form_ne.1
  | heldBack => rfl

/-- A content that has to be null, if it is given. -/
theorem Varies.nullContent {β : Type} {b : β} {c c' : Option Document} {a : β}
    (ha : (match c with
      | none => some b
      | some ⟨.null, _⟩ => some b
      | some _ => none) = some a) :
    Option.Rel (Varies drops .leaf) c c' →
      (match c' with
        | none => some b
        | some ⟨.null, _⟩ => some b
        | some _ => none) = some a := by
  intro hrel
  cases hrel with
  | none => exact ha
  | @some d d' hvaries =>
    obtain ⟨j, held⟩ := d
    obtain ⟨j', held'⟩ := d'
    obtain rfl : j = j' := hvaries.value_of_leaf
    cases j <;> exact ha

theorem Value.stable : Stable drops Value.ofDocument? (.tagged .value) := by
  have hcontent : ∀ name c c' a,
      Option.Rel (Varies drops (TaggedType.form .value name)) c c' →
      Value.ofContent? name c = some a → Value.ofContent? name c' = some a := by
    intro name c c' a hrel ha
    unfold Value.ofContent? at ha
    split at ha
    · exact Varies.nullContent ha hrel
    · exact (Stable.bool.map _).content hrel ha
    · exact (Stable.int64.map _).content hrel ha
    · exact (Stable.double.map _).content hrel ha
    · exact (Stable.decimal.map _).content hrel ha
    · exact (Stable.string.map _).content hrel ha
    · exact (Stable.instant.map _).content hrel ha
    · exact (Point.stable.map _).content hrel ha
    · exact (Distance.stable.map _).content hrel ha
    · exact (GeoBox.stable.map _).content hrel ha
    · cases ha
  exact .tagged hcontent

theorem GeoShape.stable : Stable drops GeoShape.ofDocument? (.taggedRecord .shape) := by
  refine .taggedRecord fun name d a ha => ?_
  unfold GeoShape.ofRecord? at ha
  split at ha
  · exact ⟨.circle, rfl, .record rfl <| .required 0 rfl Point.stable fun _ =>
      .required 1 rfl Distance.stable fun _ => .pure _⟩
  · exact ⟨.box, rfl, .record rfl <| .required 0 rfl GeoBox.stable fun _ => .pure _⟩
  · cases ha

/-! ## Ranges, fields and sortings -/

theorem ValueRange.stable : Stable drops ValueRange.ofDocument? (.record .range) :=
  .record rfl <| .optional 0 rfl Value.stable fun _ => .optional 1 rfl Value.stable fun _ =>
    .plain 2 rfl .bool fun _ => .plain 3 rfl .bool fun _ => .pure _

theorem Field.stable : Stable drops Field.ofDocument? (.record .field) :=
  .record rfl <| .required 0 rfl .string fun _ => .optional 1 rfl .single fun _ => .pure _

theorem SortOrder.stable : Stable drops SortOrder.ofDocument? (.record .order) :=
  .record rfl <| .required 0 rfl Field.stable fun _ =>
    .plain 1 rfl (.choice Direction.names) fun _ => .pure _

end Values

/-! ## Trees -/

section Trees

variable {drops : Bool} {function : Reader FunctionQuery} {argument : Reader Argument}
  {payload : Reader Payload} {predicate : Reader Predicate} {node : Reader Node}
  {clause : Reader Clause} {calculated : Reader CalculatedField} {group : Reader GroupOptions}
  {facet : Reader FacetOptions} {query : Reader Query}

theorem Payload.stable (hfunction : Stable drops function (.record .function)) :
    Stable drops (Payload.reader function) (.tagged .payload) := by
  have hcontent : ∀ name c c' a,
      Option.Rel (Varies drops (TaggedType.form .payload name)) c c' →
      Payload.ofContent? function name c = some a →
      Payload.ofContent? function name c' = some a := by
    intro name c c' a hrel ha
    unfold Payload.ofContent? at ha
    split at ha
    · exact Varies.nullContent ha hrel
    · exact (Value.stable.map _).content hrel ha
    · exact (ValueRange.stable.map _).content hrel ha
    · exact (GeoShape.stable.map _).content hrel ha
    · exact (Stable.objectRecord rfl <| .required 0 rfl Value.stable fun _ =>
        .optional 1 rfl .single fun _ => .pure _).content hrel ha
    · exact (Stable.objectRecord rfl <| .required 0 rfl Value.stable fun _ =>
        .required 1 rfl .uint32 fun _ => .pure _).content hrel ha
    · exact (hfunction.map _).content hrel ha
    · cases ha
  exact .tagged hcontent

theorem Predicate.stable (hpayload : Stable drops payload (.tagged .payload))
    (hnull : ∀ d a, Payload.ofDocument? d = some .null → payload d = some a → a = .null) :
    Stable drops (Predicate.reader payload) (.record .predicate) :=
  .record rfl <| .optional 0 rfl (Stable.string.map PredicateKey.ofText) fun _ =>
    .withDefault 1 rfl hpayload hnull fun _ => .pure _

theorem Criteria.stable (hpredicate : Stable drops predicate (.record .predicate)) :
    Stable drops (Criteria.reader predicate) (.record .criteria) :=
  .record rfl <| .optional 0 rfl Field.stable fun _ => .list 1 rfl hpredicate fun _ =>
    .plain 2 rfl .bool fun _ => .optional 3 rfl .single fun _ => .pure _

theorem Clause.stable (hnode : Stable drops node (.taggedRecord .node)) :
    Stable drops (Clause.reader node) (.record .clause) :=
  .record rfl <| .plain 0 rfl (.choice Junction.names) fun _ => .required 1 rfl hnode fun _ =>
    .pure _

theorem ClauseGroup.stable (hclause : Stable drops clause (.record .clause)) :
    Stable drops (ClauseGroup.reader clause) (.record .group) :=
  .record rfl <| .list 0 rfl hclause fun _ => .plain 1 rfl .bool fun _ =>
    .plain 2 rfl .bool fun _ => .pure _

theorem Node.stable_rawText : Stable drops Node.rawText? (.record .raw) :=
  .record rfl <| .member 0 rfl .string

theorem Node.stable (hpredicate : Stable drops predicate (.record .predicate))
    (hclause : Stable drops clause (.record .clause)) :
    Stable drops (Node.reader predicate clause) (.taggedRecord .node) := by
  refine .taggedRecord fun name d a ha => ?_
  unfold Node.ofRecord? at ha
  split at ha
  · exact ⟨.criteria, rfl, (Criteria.stable hpredicate).map Node.criteria⟩
  · exact ⟨.raw, rfl, Node.stable_rawText.map Node.raw⟩
  · exact ⟨.group, rfl, (ClauseGroup.stable hclause).map Node.group⟩
  · cases ha

theorem FunctionQuery.stable (hargument : Stable drops argument (.tagged .argument)) :
    Stable drops (FunctionQuery.reader argument) (.record .function) :=
  .record rfl <| .required 0 rfl .string fun _ => .optional 1 rfl hargument.list fun _ => .pure _

theorem Argument.stable (hfunction : Stable drops function (.record .function))
    (hnode : Stable drops node (.taggedRecord .node))
    (hquery : Stable drops query (.record .query)) :
    Stable drops (Argument.reader function node query) (.tagged .argument) := by
  have hcontent : ∀ name c c' a,
      Option.Rel (Varies drops (TaggedType.form .argument name)) c c' →
      Argument.ofContent? function node query name c = some a →
      Argument.ofContent? function node query name c' = some a := by
    intro name c c' a hrel ha
    unfold Argument.ofContent? at ha
    split at ha
    · exact (Value.stable.map _).content hrel ha
    · exact (Field.stable.map _).content hrel ha
    · exact (hfunction.map _).content hrel ha
    · exact (hnode.map _).content hrel ha
    · exact (hquery.map _).content hrel ha
    · cases ha
  exact .tagged hcontent

theorem CalculatedField.stable (hfunction : Stable drops function (.record .function)) :
    Stable drops (CalculatedField.reader function) (.record .calculated) :=
  .record rfl <| .optional 0 rfl .string fun _ => .required 1 rfl hfunction fun _ => .pure _

theorem GroupOptions.stable (hfunction : Stable drops function (.record .function))
    (hquery : Stable drops query (.record .query)) :
    Stable drops (GroupOptions.reader function query) (.record .groupOptions) :=
  .record rfl <| .list 0 rfl Field.stable fun _ => .list 1 rfl hfunction fun _ =>
    .list 2 rfl hquery fun _ => .optional 3 rfl .int32 fun _ => .optional 4 rfl .uint32 fun _ =>
    .list 5 rfl SortOrder.stable fun _ => .plain 6 rfl .bool fun _ => .plain 7 rfl .bool fun _ =>
    .plain 8 rfl .bool fun _ => .plain 9 rfl .bool fun _ => .plain 10 rfl .uint8 fun _ => .pure _

theorem FacetOptions.stable (hnode : Stable drops node (.taggedRecord .node)) :
    Stable drops (FacetOptions.reader node) (.record .facetOptions) :=
  .record rfl <| .list 0 rfl Field.stable fun _ => .list 1 rfl hnode fun _ =>
    .plain 2 rfl .uint32 fun _ => .plain 3 rfl .uint32 fun _ =>
    .plain 4 rfl (.choice FacetSort.names) fun _ => .optional 5 rfl .string fun _ =>
    .optional 6 rfl .uint32 fun _ => .plain 7 rfl .bool fun _ => .pure _

theorem Query.stable (hnode : Stable drops node (.taggedRecord .node))
    (hempty : ∀ d a, Node.ofDocument? d = some .empty → node d = some a → a = .empty)
    (hcalculated : Stable drops calculated (.record .calculated))
    (hgroup : Stable drops group (.record .groupOptions))
    (hfacet : Stable drops facet (.record .facetOptions)) :
    Stable drops (Query.reader node calculated group facet) (.record .query) :=
  .record rfl <| .withDefault 0 rfl hnode hempty fun _ => .list 1 rfl hnode fun _ =>
    .list 2 rfl Field.stable fun _ => .list 3 rfl hcalculated fun _ =>
    .list 4 rfl SortOrder.stable fun _ => .optional 5 rfl .uint64 fun _ =>
    .optional 6 rfl .uint32 fun _ => .optional 7 rfl hgroup fun _ =>
    .optional 8 rfl hfacet fun _ => .optional 9 rfl (.choice Operator.names) fun _ =>
    .optional 10 rfl .string fun _ => .optional 11 rfl .string fun _ =>
    .optional 12 rfl .uint32 fun _ => .pure _

end Trees

/-! ## Defaults of trees -/

/-- No other payload is null. -/
theorem Payload.reader_null {function function' : Reader FunctionQuery} {d : Document}
    (h : Payload.reader function d = some .null) : Payload.reader function' d = some .null := by
  obtain ⟨⟨shape, c⟩, hd, h⟩ := Option.bind_eq_some_iff.mp h
  refine Option.bind_eq_some_iff.mpr ⟨(shape, c), hd, ?_⟩
  have hcontent : Payload.ofContent? function shape c = some .null := h
  unfold Payload.ofContent? at hcontent
  split at hcontent
  · exact hcontent
  all_goals simp [Option.bind_eq_some_iff] at hcontent

theorem Members.withDefault_nil {α : Type} {read read' : Reader α} {m : Members} {name : String}
    (h : m.withDefault name [] (Reader.list read) = some []) :
    m.withDefault name [] (Reader.list read') = some [] := by
  unfold Members.withDefault at h ⊢
  cases hd : m.lookup name with
  | none => rfl
  | some d =>
    rw [hd] at h
    exact Reader.list_eq_nil_iff.mpr (Reader.list_eq_nil_iff.mp h)

theorem ClauseGroup.reader_empty {clause clause' : Reader Clause} {d : Document}
    (h : ClauseGroup.reader clause d = some .empty) :
    ClauseGroup.reader clause' d = some .empty := by
  obtain ⟨m, hm, h⟩ := Option.bind_eq_some_iff.mp h
  obtain ⟨clauses, hclauses, h⟩ := Option.bind_eq_some_iff.mp h
  obtain ⟨negating, hnegating, h⟩ := Option.bind_eq_some_iff.mp h
  obtain ⟨chained, hchained, h⟩ := Option.bind_eq_some_iff.mp h
  cases h
  exact Option.bind_eq_some_iff.mpr ⟨m, hm, Option.bind_eq_some_iff.mpr
    ⟨[], Members.withDefault_nil hclauses, Option.bind_eq_some_iff.mpr
      ⟨false, hnegating, Option.bind_eq_some_iff.mpr ⟨false, hchained, rfl⟩⟩⟩⟩

/-- No other node is empty. -/
theorem Node.reader_empty {predicate predicate' : Reader Predicate} {clause clause' : Reader Clause}
    {d : Document} (h : Node.reader predicate clause d = some .empty) :
    Node.reader predicate' clause' d = some .empty := by
  obtain ⟨⟨tag, record⟩, hd, h⟩ := Option.bind_eq_some_iff.mp h
  refine Option.bind_eq_some_iff.mpr ⟨(tag, record), hd, ?_⟩
  have hrecord : Node.ofRecord? predicate clause tag record = some .empty := h
  unfold Node.ofRecord? at hrecord
  split at hrecord
  · simp [Node.empty] at hrecord
  · simp [Node.empty] at hrecord
  · obtain ⟨g, hg, hempty⟩ := Option.map_eq_some_iff.mp hrecord
    cases hempty
    exact Option.map_eq_some_iff.mpr ⟨.empty, ClauseGroup.reader_empty hg, rfl⟩
  · cases hrecord

/-! ## Queries -/

/-- All readers that refer to each other are stable, and they agree about the defaults. -/
structure TreeReaders.Stable (drops : Bool) (r : TreeReaders) : Prop where
  function : SolrRequest.Stable drops r.function (.record .function)
  argument : SolrRequest.Stable drops r.argument (.tagged .argument)
  payload : SolrRequest.Stable drops r.payload (.tagged .payload)
  predicate : SolrRequest.Stable drops r.predicate (.record .predicate)
  criteria : SolrRequest.Stable drops r.criteria (.record .criteria)
  node : SolrRequest.Stable drops r.node (.taggedRecord .node)
  clause : SolrRequest.Stable drops r.clause (.record .clause)
  calculated : SolrRequest.Stable drops r.calculated (.record .calculated)
  group : SolrRequest.Stable drops r.group (.record .groupOptions)
  facet : SolrRequest.Stable drops r.facet (.record .facetOptions)
  query : SolrRequest.Stable drops r.query (.record .query)
  nullPayload : ∀ d a, Payload.ofDocument? d = some .null → r.payload d = some a → a = .null
  emptyNode : ∀ d a, Node.ofDocument? d = some .empty → r.node d = some a → a = .empty

/-- By induction on the levels; the readers of a level are given the readers of the next one. -/
theorem TreeReaders.stable_upTo (drops : Bool) (levels : Nat) :
    (TreeReaders.upTo levels).Stable drops := by
  induction levels with
  | zero => constructor <;> exact nofun
  | succ levels ih =>
    exact {
      function := FunctionQuery.stable ih.argument
      argument := Argument.stable ih.function ih.node ih.query
      payload := Payload.stable ih.function
      predicate := Predicate.stable ih.payload ih.nullPayload
      criteria := Criteria.stable ih.predicate
      node := Node.stable ih.predicate ih.clause
      clause := Clause.stable ih.node
      calculated := CalculatedField.stable ih.function
      group := GroupOptions.stable ih.function ih.query
      facet := FacetOptions.stable ih.node
      query := Query.stable ih.node ih.emptyNode ih.calculated ih.group ih.facet
      nullPayload := fun d a hnull ha =>
        Option.some.inj (ha.symm.trans (Payload.reader_null hnull))
      emptyNode := fun d a hempty ha =>
        Option.some.inj (ha.symm.trans (Node.reader_empty hempty)) }

/-- An edit of a query's document. -/
theorem Query.ofDocument?_of_edit {drops : Bool} {j j' : Json}
    (h : Edit drops (.record .query) false j j') {q : Query}
    (hq : Query.ofDocument? (.ofJson j) = some q) : Query.ofDocument? (.ofJson j') = some q :=
  (TreeReaders.stable_upTo drops (Json.maxDepth + 1)).query _ _ q (.edited nofun h) hq

open Relation in
/-- **A query's document says what its known members say.** Edits that drop nothing do not change
what is read, and documents that are not read stay so; and what is read is not changed either by
dropping members that read to their defaults. -/
theorem Query.ofDocument?_of_edits (j j' : Json) :
    (ReflTransGen (Edit false (.record .query) false) j j' →
        Query.ofDocument? (.ofJson j') = Query.ofDocument? (.ofJson j)) ∧
      ∀ q, Query.ofDocument? (.ofJson j) = some q →
        ReflTransGen (Edit true (.record .query) false) j j' →
        Query.ofDocument? (.ofJson j') = some q := by
  constructor
  · intro h
    induction h with
    | refl => rfl
    | tail _ hedit ih =>
      rw [← ih]
      refine Option.ext fun q => ⟨fun hq => ?_, fun hq => ?_⟩
      · exact Query.ofDocument?_of_edit hedit.symm hq
      · exact Query.ofDocument?_of_edit hedit hq
  · intro q hq h
    induction h with
    | refl => exact hq
    | tail _ hedit ih => exact Query.ofDocument?_of_edit hedit ih

/-- A query's document with one calculated field, a call with one argument, and other members. -/
def callDocument (argument rest : List Member) : Json :=
  .object (⟨"calculated_fields", .array [.object [⟨"function", .object [
    ⟨"operation", .string "abs"⟩, ⟨"arguments", .array [.object argument]⟩]⟩]]⟩ :: rest)

/-- An edit of the argument. -/
theorem callDocument_edit {drops : Bool} {argument argument' : List Member} (rest : List Member)
    (h : Edit drops (.tagged .argument) false (.object argument) (.object argument')) :
    Edit drops (.record .query) false (callDocument argument rest)
      (callDocument argument' rest) := by
  unfold callDocument
  refine .inMember (t := .query) [] rest (List.mem_of_getElem? (i := 3) rfl) ?_
  refine .inItem [] [] (.inMember (t := .calculated) [] [] (List.mem_of_getElem? (i := 1) rfl) ?_)
  refine .inMember (t := .function) [_] [] (List.mem_of_getElem? (i := 1) rfl) ?_
  exact .inOptional (.inItem [] [] h)

/-- An argument whose tag stands in front is edited, and an empty sorting is dropped. -/
theorem callDocument_edited :
    let tag : Member := ⟨"kind", .string "field"⟩
    let content : Member := ⟨"value", .object [⟨"name", .string "a"⟩]⟩
    let note : Member := ⟨"note", .bool true⟩
    let sort : Member := ⟨"sort", .array []⟩
    Query.ofDocument? (.ofJson (callDocument [content, note, tag] [sort])) =
        Query.ofDocument? (.ofJson (callDocument [tag, content] [sort])) ∧
      ∃ q, Query.ofDocument? (.ofJson (callDocument [tag, content] [sort])) = some q ∧
        Query.ofDocument? (.ofJson (callDocument [tag, content] [])) = some q := by
  intro tag content note sort
  obtain ⟨hedits, -⟩ := Query.ofDocument?_of_edits (callDocument [tag, content] [sort])
    (callDocument [content, note, tag] [sort])
  obtain ⟨-, hdrops⟩ := Query.ofDocument?_of_edits (callDocument [tag, content] [sort])
    (callDocument [tag, content] [])
  have hswap : Edit false (.tagged .argument) false (.object [tag, content])
      (.object [content, tag]) := by
    refine .permuted rfl (.swap _ _ []) fun t ht => ?_
    cases ht
    refine .moved fun c hc => ?_
    cases List.mem_singleton.mp hc
    refine ⟨rfl, fun tag htag name hname => ?_⟩
    cases List.mem_singleton.mp htag
    cases hname
    refine .record (t := .field) (fun _ _ rule hrule v _ => ?_) nofun
    simp only [RecordType.members, List.mem_cons, List.not_mem_nil, or_false] at hrule
    rcases hrule with rfl | rfl
    · exact .leaf v
    · exact .optional (.leaf v)
  have hnote : Edit false (.tagged .argument) false (.object [content, tag])
      (.object [content, note, tag]) :=
    .added [content] [tag] rfl (by decide) nofun
  have hsort : Edit true (.record .query) false (callDocument [tag, content] [sort])
      (callDocument [tag, content] []) := by
    unfold callDocument
    exact .dropped (t := .query) [_] [] rfl (List.mem_of_getElem? (i := 4) rfl) rfl
  refine ⟨hedits ?_, _, rfl, hdrops _ rfl (.single hsort)⟩
  exact .tail (.single (callDocument_edit _ hswap)) (callDocument_edit _ hnote)

/-- A content that names an operator by an empty object is read in front of its tag, but not behind
it. -/
theorem emptyName_swapped :
    let tag : Member := ⟨"kind", .string "query"⟩
    let content : Member :=
      ⟨"value", .object [⟨"default_operator", .object [⟨"or", .object []⟩]⟩]⟩
    [tag, content].Perm [content, tag] ∧
      Query.ofDocument? (.ofJson (callDocument [tag, content] [])) = none ∧
      ∃ q, Query.ofDocument? (.ofJson (callDocument [content, tag] [])) = some q := by
  intro tag content
  exact ⟨.swap _ _ [], rfl, _, rfl⟩

end SolrRequest

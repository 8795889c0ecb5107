import SolrRequest.Document.Tree
import SolrRequest.Proofs.Document.Members

/-!
# Edits of documents

What a JSON value is read as is its *form*. Forms say which objects in a document are read as
records and as tags with contents, which members are known there, and which of these have a default.

An *edit* changes one such object somewhere in a document (`Edit`): its members change places,
members with unknown names come or go, or a member that reads to its default is dropped. Edits
without dropping can be undone (`Edit.symm`).

Two things are asked of edits, both for the sake of what is held back for a tag. What is added to a
part that is held back has to be readable. And a content that is not held back can be moved to the
other side of its tag only if it is readable and uses no notation for names that is understood in
just one of the places (`AsWritten`).
-/

namespace SolrRequest

/-! ## Forms -/

/-- The records of documents. -/
inductive RecordType where
  | point
  | distance
  | bounds
  | circle
  | box
  | range
  | field
  | order
  | fuzzy
  | sloppy
  | predicate
  | criteria
  | clause
  | group
  | raw
  | function
  | calculated
  | groupOptions
  | facetOptions
  | query

/-- The tags with contents. -/
inductive TaggedType where
  | value
  | payload
  | argument

/-- The records with a tag among their members. -/
inductive TaggedRecordType where
  | shape
  | node

/-- What a JSON value is read as. Numbers and texts are leaves, and so is whatever is not read. -/
inductive Form where
  | leaf
  | name
  | optional (f : Form)
  | list (f : Form)
  | record (t : RecordType)
  | tagged (t : TaggedType)
  | taggedRecord (t : TaggedRecordType)

/-- A member that a record knows, and which documents read to its default. -/
structure MemberRule where
  name : String
  form : Form
  Default : Document → Prop

namespace MemberRule

/-- A member that has to be given. -/
def required (name : String) (form : Form) : MemberRule :=
  ⟨name, form, fun _ => False⟩

def withDefault {α : Type} (name : String) (form : Form) (default : α) (read : Reader α) :
    MemberRule :=
  ⟨name, form, fun d => read d = some default⟩

/-- An optional member, which is none when it is not given. -/
def optional {α : Type} (name : String) (form : Form) (read : Reader α) : MemberRule :=
  withDefault name (.optional form) none (Reader.optional read)

/-- A list, which is empty when it is not given. -/
def list {α : Type} (name : String) (form : Form) (read : Reader α) : MemberRule :=
  withDefault name (.list form) [] (Reader.list read)

end MemberRule

namespace RecordType

/-- The members of a record in their order. -/
def members : RecordType → List MemberRule
  | point => [.required "x" .leaf, .required "y" .leaf]
  | distance =>
    [.required "value" .leaf, .withDefault "metric" .name Metric.default Metric.ofDocument?]
  | bounds => [.required "first" (.record point), .required "second" (.record point)]
  | circle => [.required "center" (.record point), .required "distance" (.record distance)]
  | box => [.required "bounds" (.record bounds)]
  | range =>
    [.optional "lower" (.tagged .value) Value.ofDocument?,
      .optional "upper" (.tagged .value) Value.ofDocument?,
      .withDefault "include_lower" .leaf true Reader.bool,
      .withDefault "include_upper" .leaf true Reader.bool]
  | field => [.required "name" .leaf, .optional "boost" .leaf Reader.single]
  | order =>
    [.required "field" (.record field),
      .withDefault "direction" .name .ascending (Reader.choice Direction.names)]
  | fuzzy => [.required "term" (.tagged .value), .optional "similarity" .leaf Reader.single]
  | sloppy => [.required "phrase" (.tagged .value), .required "slop" .leaf]
  | predicate =>
    [.optional "key" .leaf PredicateKey.ofDocument?,
      .withDefault "value" (.tagged .payload) .null Payload.ofDocument?]
  | criteria =>
    [.optional "field" (.record field) Field.ofDocument?,
      .list "predicates" (.record predicate) Predicate.ofDocument?,
      .withDefault "negating" .leaf false Reader.bool, .optional "boost" .leaf Reader.single]
  | clause =>
    [.withDefault "junction" .name .and (Reader.choice Junction.names),
      .required "node" (.taggedRecord .node)]
  | group =>
    [.list "clauses" (.record clause) treeReaders.clause,
      .withDefault "negating" .leaf false Reader.bool,
      .withDefault "chained" .leaf false Reader.bool]
  | raw => [.required "query" .leaf]
  | function =>
    [.required "operation" .leaf,
      .optional "arguments" (.list (.tagged .argument)) (Reader.list Argument.ofDocument?)]
  | calculated =>
    [.optional "alias" .leaf Reader.string, .required "function" (.record function)]
  | groupOptions =>
    [.list "fields" (.record field) Field.ofDocument?,
      .list "functions" (.record function) FunctionQuery.ofDocument?,
      .list "queries" (.record query) Query.ofDocument?, .optional "limit" .leaf Reader.int32,
      .optional "offset" .leaf Reader.uint32, .list "sort" (.record order) SortOrder.ofDocument?,
      .withDefault "total_count" .leaf false Reader.bool,
      .withDefault "group_main" .leaf false Reader.bool,
      .withDefault "group_facets" .leaf false Reader.bool,
      .withDefault "truncate" .leaf false Reader.bool,
      .withDefault "cache_percent" .leaf 0 Reader.uint8]
  | facetOptions =>
    [.list "fields" (.record field) Field.ofDocument?,
      .list "queries" (.taggedRecord .node) Node.ofDocument?,
      .withDefault "limit" .leaf 10 Reader.uint32, .withDefault "min_count" .leaf 1 Reader.uint32,
      .withDefault "sort" .name .count (Reader.choice FacetSort.names),
      .optional "prefix" .leaf Reader.string, .optional "offset" .leaf Reader.uint32,
      .withDefault "missing" .leaf false Reader.bool]
  | query =>
    [.withDefault "criteria" (.taggedRecord .node) .empty Node.ofDocument?,
      .list "filter_queries" (.taggedRecord .node) Node.ofDocument?,
      .list "projection" (.record field) Field.ofDocument?,
      .list "calculated_fields" (.record calculated) CalculatedField.ofDocument?,
      .list "sort" (.record order) SortOrder.ofDocument?, .optional "offset" .leaf Reader.uint64,
      .optional "rows" .leaf Reader.uint32,
      .optional "group_options" (.record groupOptions) GroupOptions.ofDocument?,
      .optional "facet_options" (.record facetOptions) FacetOptions.ofDocument?,
      .optional "default_operator" .name (Reader.choice Operator.names),
      .optional "def_type" .leaf Reader.string, .optional "request_handler" .leaf Reader.string,
      .optional "time_allowed" .leaf Reader.uint32]

/-- The names of the members of a record. -/
def known (t : RecordType) : List String :=
  t.members.map (·.name)

end RecordType

namespace TaggedType

def tag : TaggedType → String
  | value => "type"
  | payload => "shape"
  | argument => "kind"

def content : TaggedType → String
  | value => "value"
  | payload => "value"
  | argument => "value"

/-- The tags and the forms of what they are the tags of. -/
def contents : TaggedType → List (String × Form)
  | value =>
    [("null", .leaf), ("bool", .leaf), ("integer", .leaf), ("float", .leaf), ("decimal", .leaf),
      ("text", .leaf), ("date_time", .leaf), ("point", .record .point),
      ("distance", .record .distance), ("box", .record .bounds)]
  | payload =>
    [("null", .leaf), ("single", .tagged .value), ("range", .record .range),
      ("geo", .taggedRecord .shape), ("fuzzy", .record .fuzzy), ("sloppy", .record .sloppy),
      ("function", .record .function)]
  | argument =>
    [("value", .tagged .value), ("field", .record .field), ("function", .record .function),
      ("criteria", .taggedRecord .node), ("query", .record .query)]

def names (t : TaggedType) : List String :=
  t.contents.map Prod.fst

/-- The form of the content under a tag. -/
def form (t : TaggedType) (name : String) : Form :=
  (t.contents.lookup name).getD .leaf

end TaggedType

namespace TaggedRecordType

def tag : TaggedRecordType → String
  | shape => "shape"
  | node => "node"

/-- The tags and the records that they are the tags of. -/
def records : TaggedRecordType → List (String × RecordType)
  | shape => [("circle", .circle), ("box", .box)]
  | node => [("criteria", .criteria), ("raw", .raw), ("group", .group)]

def names (t : TaggedRecordType) : List String :=
  t.records.map Prod.fst

/-- The names of the members under any tag. -/
def known (t : TaggedRecordType) : List String :=
  t.records.flatMap fun e => e.2.known

end TaggedRecordType

/-- The names that an object of a form knows, if objects are read in that form. -/
def Form.known? : Form → Option (List String)
  | .record t => some t.known
  | .tagged t => some [t.tag, t.content]
  | .taggedRecord t => some (t.tag :: t.known)
  | .leaf | .name | .optional _ | .list _ => none

/-- What stands in an object of a form is held back for a tag. -/
def Form.holdsBack : Form → Bool → Bool
  | .taggedRecord _, _ => true
  | .leaf, held | .name, held | .optional _, held | .list _, held | .record _, held
  | .tagged _, held => held

/-! ## Notations for names -/

/-- A name from a choice is not given by an empty object. -/
def Json.NoEmptyName (j : Json) : Prop :=
  ∀ name, j ≠ .object [⟨name, .object []⟩]

/-- A name from a choice is not given by its place. -/
def Json.NoPlace (j : Json) : Prop :=
  ∀ n, j ≠ .number n

open Document in
/-- No name is written in a way that is understood only where it is held back, or only where it is
not. Parts that are held back in any case do not matter. -/
inductive AsWritten : Form → Json → Prop where
  | leaf (j : Json) : AsWritten .leaf j
  | name {j : Json} (h : j.NoEmptyName) : AsWritten .name j
  | optional {f : Form} {j : Json} (h : AsWritten f j) : AsWritten (.optional f) j
  | list {f : Form} {j : Json}
      (h : ∀ items, j = .array items → ∀ item ∈ items, AsWritten f item) :
      AsWritten (.list f) j
  | record {t : RecordType} {j : Json}
      (hobject : ∀ members, j = .object members → ∀ rule ∈ t.members,
        ∀ v ∈ membersNamed rule.name members, AsWritten rule.form v)
      (harray : ∀ items, j = .array items → ∀ (i : Nat) rule v, t.members[i]? = some rule →
        items[i]? = some v → AsWritten rule.form v) : AsWritten (.record t) j
  | tagged {t : TaggedType} {j : Json}
      (htag : ∀ members, j = .object members → ∀ tag ∈ membersNamed t.tag members,
        tag.NoEmptyName)
      (hcontent : ∀ members, j = .object members → contentFirst t.tag t.content members = false →
        ∀ tag ∈ membersNamed t.tag members, ∀ held name, name? ⟨tag, held⟩ = some name →
          ∀ c ∈ membersNamed t.content members, AsWritten (t.form name) c)
      (hfirst : ∀ tag c, j = .array [tag, c] → tag.NoPlace)
      (hsecond : ∀ tag c, j = .array [tag, c] → ∀ held name,
        place? t.names ⟨tag, held⟩ = some name → AsWritten (t.form name) c) :
      AsWritten (.tagged t) j
  | taggedRecord {t : TaggedRecordType} {j : Json}
      (htag : ∀ members, j = .object members → ∀ tag ∈ membersNamed t.tag members, tag.NoPlace)
      (hfirst : ∀ tag items, j = .array (tag :: items) → tag.NoPlace) :
      AsWritten (.taggedRecord t) j

/-! ## Edits -/

open Document in
/-- The members of a tagged content may change places: the tag and the content keep their order, or
the content is held back already, or nothing in it depends on that. -/
inductive TaggedType.Reorders (t : TaggedType) (held : Bool) (members members' : List Member) :
    Prop where
  | heldBack (h : held = true)
  | kept (h : contentFirst t.tag t.content members = contentFirst t.tag t.content members')
  | moved (h : ∀ c ∈ membersNamed t.content members, c.isReadable = true ∧
      ∀ tag ∈ membersNamed t.tag members, ∀ name, name? ⟨tag, held⟩ = some name →
        AsWritten (t.form name) c)

open Document in
/-- One change of a JSON value of a form, which may be held back for a tag. Dropping members is
allowed or not. -/
inductive Edit (drops : Bool) : Form → Bool → Json → Json → Prop where
  /-- The members of an object change places. -/
  | permuted {f : Form} {held : Bool} {known : List String} {members members' : List Member}
      (hknown : f.known? = some known) (h : members.Perm members')
      (horder : ∀ t, f = .tagged t → t.Reorders held members members') :
      Edit drops f held (.object members) (.object members')
  /-- A member with an unknown name is added. -/
  | added {f : Form} {held : Bool} {known : List String} (before : List Member) {m : Member}
      (after : List Member) (hknown : f.known? = some known) (hname : m.name ∉ known)
      (hreadable : f.holdsBack held = true → m.value.isReadable = true) :
      Edit drops f held (.object (before ++ after)) (.object (before ++ m :: after))
  /-- A member with an unknown name is removed. -/
  | removed {f : Form} {held : Bool} {known : List String} (before : List Member) {m : Member}
      (after : List Member) (hknown : f.known? = some known) (hname : m.name ∉ known)
      (hreadable : f.holdsBack held = true → m.value.isReadable = true) :
      Edit drops f held (.object (before ++ m :: after)) (.object (before ++ after))
  /-- A member that reads to its default is dropped. -/
  | dropped {t : RecordType} {held : Bool} {rule : MemberRule} (before : List Member) {j : Json}
      (after : List Member) (hdrops : drops = true) (hrule : rule ∈ t.members)
      (hdefault : rule.Default ⟨j, held⟩) :
      Edit drops (.record t) held (.object (before ++ ⟨rule.name, j⟩ :: after))
        (.object (before ++ after))
  | inMember {t : RecordType} {held : Bool} {rule : MemberRule} (before : List Member)
      {j j' : Json} (after : List Member) (hrule : rule ∈ t.members)
      (h : Edit drops rule.form held j j') :
      Edit drops (.record t) held (.object (before ++ ⟨rule.name, j⟩ :: after))
        (.object (before ++ ⟨rule.name, j'⟩ :: after))
  /-- Records can also be written as arrays of their members. -/
  | inPlace {t : RecordType} {held : Bool} {rule : MemberRule} (before : List Json) {j j' : Json}
      (after : List Json) (hrule : t.members[before.length]? = some rule)
      (h : Edit drops rule.form held j j') :
      Edit drops (.record t) held (.array (before ++ j :: after)) (.array (before ++ j' :: after))
  | inItem {f : Form} {held : Bool} (before : List Json) {j j' : Json} (after : List Json)
      (h : Edit drops f held j j') :
      Edit drops (.list f) held (.array (before ++ j :: after)) (.array (before ++ j' :: after))
  | inOptional {f : Form} {held : Bool} {j j' : Json} (h : Edit drops f held j j') :
      Edit drops (.optional f) held j j'
  /-- A content in front of its tag is held back. -/
  | inContent {t : TaggedType} {held : Bool} (before : List Member) {tag c c' : Json}
      {name : String} (after : List Member) (htag : membersNamed t.tag (before ++ after) = [tag])
      (hname : name? ⟨tag, held⟩ = some name)
      (h : Edit drops (t.form name)
        (held || contentFirst t.tag t.content (before ++ ⟨t.content, c⟩ :: after)) c c') :
      Edit drops (.tagged t) held (.object (before ++ ⟨t.content, c⟩ :: after))
        (.object (before ++ ⟨t.content, c'⟩ :: after))
  | inSecond {t : TaggedType} {held : Bool} {tag c c' : Json} {name : String}
      (hname : place? t.names ⟨tag, held⟩ = some name) (h : Edit drops (t.form name) held c c') :
      Edit drops (.tagged t) held (.array [tag, c]) (.array [tag, c'])
  /-- All but the tag of a tagged record is held back. -/
  | inRecord {t : TaggedRecordType} {r : RecordType} {held : Bool} {tag : Json} {name : String}
      {members members' : List Member} (hname : place? t.names ⟨tag, held⟩ = some name)
      (hrecord : t.records.lookup name = some r) (hne : ∀ m ∈ members, m.name ≠ t.tag)
      (hne' : ∀ m ∈ members', m.name ≠ t.tag)
      (h : Edit drops (.record r) true (.object members) (.object members')) :
      Edit drops (.taggedRecord t) held (.object (⟨t.tag, tag⟩ :: members))
        (.object (⟨t.tag, tag⟩ :: members'))
  | inRest {t : TaggedRecordType} {r : RecordType} {held : Bool} {tag : Json} {name : String}
      {items items' : List Json} (hname : place? t.names ⟨tag, held⟩ = some name)
      (hrecord : t.records.lookup name = some r)
      (h : Edit drops (.record r) true (.array items) (.array items')) :
      Edit drops (.taggedRecord t) held (.array (tag :: items)) (.array (tag :: items'))

/-! ## Members with a name -/

namespace Document

variable {name : String} {m : Member} {members members' before after : List Member}

theorem membersNamed_append : membersNamed name (before ++ after) =
    membersNamed name before ++ membersNamed name after := by
  simp [membersNamed]

theorem membersNamed_cons_self (j : Json) :
    membersNamed name (⟨name, j⟩ :: members) = j :: membersNamed name members := by
  simp [membersNamed]

theorem membersNamed_cons_of_ne (h : m.name ≠ name) :
    membersNamed name (m :: members) = membersNamed name members := by
  simp [membersNamed, h]

theorem membersNamed_perm (h : members.Perm members') :
    (membersNamed name members).Perm (membersNamed name members') :=
  (h.filter _).map _

theorem mem_membersNamed {j : Json} : j ∈ membersNamed name members ↔ ⟨name, j⟩ ∈ members := by
  simp only [membersNamed, List.mem_map, List.mem_filter, beq_iff_eq]
  constructor
  · rintro ⟨⟨_, _⟩, ⟨hm, rfl⟩, rfl⟩
    exact hm
  · exact fun h => ⟨⟨name, j⟩, ⟨h, rfl⟩, rfl⟩

/-- A member that is neither the tag nor the content does not matter for their order. -/
theorem contentFirst_insert {tag content : String} (htag : m.name ≠ tag)
    (hcontent : m.name ≠ content) :
    contentFirst tag content (before ++ m :: after) =
      contentFirst tag content (before ++ after) := by
  simp [contentFirst, List.find?_append, htag, hcontent]

/-- Only the names of members matter for the order of the tag and the content. -/
theorem contentFirst_replace (tag content : String) (j j' : Json) :
    contentFirst tag content (before ++ ⟨name, j⟩ :: after) =
      contentFirst tag content (before ++ ⟨name, j'⟩ :: after) := by
  simp only [contentFirst, List.find?_append, List.find?_cons]
  cases before.find? _ with
  | some m => rfl
  | none =>
    cases h : (name == tag || name == content) <;> rfl

end Document

namespace Json

theorem isReadable_object_append (before after : List Member) :
    (Json.object (before ++ after)).isReadable =
      ((Json.object before).isReadable && (Json.object after).isReadable) := by
  induction before with
  | nil => simp
  | cons m r ih =>
    obtain ⟨name, j⟩ := m
    simp [ih, Bool.and_assoc]

theorem isReadable_array_append (before after : List Json) :
    (Json.array (before ++ after)).isReadable =
      ((Json.array before).isReadable && (Json.array after).isReadable) := by
  induction before with
  | nil => rfl
  | cons j r ih => simp [ih, Bool.and_assoc]

theorem isReadable_object_iff {members : List Member} :
    (Json.object members).isReadable = true ↔ ∀ m ∈ members, m.value.isReadable = true := by
  induction members with
  | nil => simp
  | cons m r ih =>
    obtain ⟨name, j⟩ := m
    simp [ih]

theorem isReadable_array_iff {items : List Json} :
    (Json.array items).isReadable = true ↔ ∀ j ∈ items, j.isReadable = true := by
  induction items with
  | nil => exact iff_of_true rfl (List.forall_mem_nil _)
  | cons j r ih => simp [ih]

end Json

/-! ## Edits can be undone -/

open Document

theorem TaggedType.Reorders.symm {t : TaggedType} {held : Bool} {members members' : List Member}
    (hperm : members.Perm members') (h : t.Reorders held members members') :
    t.Reorders held members' members := by
  cases h with
  | heldBack h => exact .heldBack h
  | kept h => exact .kept h.symm
  | moved h =>
    refine .moved fun c hc => ?_
    obtain ⟨hreadable, hwritten⟩ := h c ((membersNamed_perm hperm).mem_iff.mpr hc)
    exact ⟨hreadable, fun tag htag => hwritten tag ((membersNamed_perm hperm).mem_iff.mpr htag)⟩

/-- An edit that drops nothing can be undone by one. -/
theorem Edit.symm {f : Form} {held : Bool} {j j' : Json} (h : Edit false f held j j') :
    Edit false f held j' j := by
  induction h with
  | permuted hknown h horder =>
    exact .permuted hknown h.symm fun t ht => (horder t ht).symm h
  | added before after hknown hname hreadable => exact .removed before after hknown hname hreadable
  | removed before after hknown hname hreadable => exact .added before after hknown hname hreadable
  | dropped before after hdrops hrule hdefault => cases hdrops
  | inMember before after hrule _ ih => exact .inMember before after hrule ih
  | inPlace before after hrule _ ih => exact .inPlace before after hrule ih
  | inItem before after _ ih => exact .inItem before after ih
  | inOptional _ ih => exact .inOptional ih
  | @inContent t held before tag c c' name after htag hname _ ih =>
    rw [contentFirst_replace _ _ c c'] at ih
    exact .inContent before after htag hname ih
  | inSecond hname _ ih => exact .inSecond hname ih
  | inRecord hname hrecord hne hne' _ ih => exact .inRecord hname hrecord hne' hne ih
  | inRest hname hrecord _ ih => exact .inRest hname hrecord ih

/-! ## What edits keep -/

theorem Form.holdsBack_of_held {f : Form} {held : Bool} (h : held = true) :
    f.holdsBack held = true := by
  cases f <;> first | rfl | exact h

/-- Edits are about objects and arrays. -/
theorem Edit.ne_null {drops : Bool} {f : Form} {held : Bool} {j j' : Json}
    (h : Edit drops f held j j') : j ≠ .null ∧ j' ≠ .null := by
  induction h with
  | inOptional _ ih => exact ih
  | _ => exact ⟨nofun, nofun⟩

/-- There is nothing to edit in a leaf or a name. -/
theorem Edit.form_ne {drops : Bool} {f : Form} {held : Bool} {j j' : Json}
    (h : Edit drops f held j j') : f ≠ .leaf ∧ f ≠ .name := by
  cases h with
  | permuted hknown | added _ _ hknown | removed _ _ hknown =>
    constructor
    · rintro rfl
      cases hknown
    · rintro rfl
      cases hknown
  | _ => exact ⟨nofun, nofun⟩

/-- What is held back stays readable. -/
theorem Edit.isReadable {drops : Bool} {f : Form} {held : Bool} {j j' : Json}
    (h : Edit drops f held j j') (hheld : f.holdsBack held = true) (hj : j.isReadable = true) :
    j'.isReadable = true := by
  induction h with
  | permuted hknown h =>
    rw [Json.isReadable_object_iff] at hj ⊢
    exact fun m hm => hj m (h.mem_iff.mpr hm)
  | @added f held known before m after hknown hname hreadable =>
    obtain ⟨name, j⟩ := m
    simp only [Json.isReadable_object_append, Json.isReadable_object_cons, Bool.and_eq_true] at hj ⊢
    exact ⟨hj.1, hreadable hheld, hj.2⟩
  | @removed f held known before m after hknown hname hreadable =>
    obtain ⟨name, j⟩ := m
    simp only [Json.isReadable_object_append, Json.isReadable_object_cons, Bool.and_eq_true] at hj ⊢
    exact ⟨hj.1, hj.2.2⟩
  | dropped before after =>
    simp only [Json.isReadable_object_append, Json.isReadable_object_cons, Bool.and_eq_true] at hj ⊢
    exact ⟨hj.1, hj.2.2⟩
  | inMember before after hrule _ ih =>
    simp only [Json.isReadable_object_append, Json.isReadable_object_cons, Bool.and_eq_true] at hj ⊢
    exact ⟨hj.1, ih (Form.holdsBack_of_held hheld) hj.2.1, hj.2.2⟩
  | inPlace before after hrule _ ih =>
    simp only [Json.isReadable_array_append, Json.isReadable_array_cons, Bool.and_eq_true] at hj ⊢
    exact ⟨hj.1, ih (Form.holdsBack_of_held hheld) hj.2.1, hj.2.2⟩
  | inItem before after _ ih =>
    simp only [Json.isReadable_array_append, Json.isReadable_array_cons, Bool.and_eq_true] at hj ⊢
    exact ⟨hj.1, ih (Form.holdsBack_of_held hheld) hj.2.1, hj.2.2⟩
  | inOptional _ ih => exact ih (Form.holdsBack_of_held hheld) hj
  | inContent before after htag hname _ ih =>
    simp only [Json.isReadable_object_append, Json.isReadable_object_cons, Bool.and_eq_true] at hj ⊢
    exact ⟨hj.1, ih (Form.holdsBack_of_held (Bool.or_eq_true_iff.mpr (.inl hheld))) hj.2.1, hj.2.2⟩
  | inSecond hname _ ih =>
    simp only [Json.isReadable_array_cons, Bool.and_eq_true] at hj ⊢
    exact ⟨hj.1, ih (Form.holdsBack_of_held hheld) hj.2.1, hj.2.2⟩
  | inRecord hname hrecord hne hne' _ ih =>
    simp only [Json.isReadable_object_cons, Bool.and_eq_true] at hj ⊢
    exact ⟨hj.1, ih rfl hj.2⟩
  | inRest hname hrecord _ ih =>
    simp only [Json.isReadable_array_cons, Bool.and_eq_true] at hj ⊢
    exact ⟨hj.1, ih rfl hj.2⟩

end SolrRequest

import SolrRequest.Document.Scalars
import SolrRequest.Proofs.Document.Members
import SolrRequest.Proofs.Number.Decimal
import SolrRequest.Proofs.Time.Instant

/-!
# Reading values, places and fields back

The document of a literal value, a place, a range, a field or a sorting denotes what it was written
for. A floating-point number is read by two roundings and need not come back, so those inside are
asked to (`Floating.ReadsBack`); a value of an application has no document at all. What can be
written and read back is said by the predicates `Writable`. A decimal zero comes back without a
sign (`Value.unsigned`).
-/

namespace SolrRequest

open Number Time

/-! ## Numbers -/

namespace Number.Floating

/-- A number is read back from the numeral that it is written with. There is no such numeral for
infinities and for what is not a number. -/
def ReadsBack {f : BinaryFormat} (read : Numeral → Option (Floating f)) (x : Floating f) : Prop :=
  x.numeral?.bind read = some x

variable {f : BinaryFormat} {read : Numeral → Option (Floating f)} {x : Floating f}

theorem ReadsBack.exists_numeral (h : x.ReadsBack read) :
    ∃ n, x.toJson = .number n ∧ read n = some x := by
  obtain ⟨n, hn, hread⟩ := Option.bind_eq_some_iff.mp h
  exact ⟨n, by rw [toJson, hn], hread⟩

theorem ReadsBack.toJson_ne_null (h : x.ReadsBack read) : x.toJson ≠ .null := by
  obtain ⟨n, hn, _⟩ := h.exists_numeral
  rw [hn]
  exact nofun

end Number.Floating

/-- A number in double precision is read back from its numeral. -/
def Number.Double.ReadsBack (x : Double) : Prop :=
  Floating.ReadsBack Numeral.double? x

/-- A number in single precision is read back from its numeral. -/
def Number.Single.ReadsBack (x : Single) : Prop :=
  Floating.ReadsBack Numeral.single? x

theorem Number.Double.denotes {x : Double} (h : x.ReadsBack) :
    (Floating.toJson x).Denotes Reader.double x := by
  obtain ⟨n, hn, hread⟩ := Floating.ReadsBack.exists_numeral h
  rw [hn]
  refine ⟨fun _ => hread, ?_⟩
  rw [Json.isReadable, hread, Option.isSome_some, Bool.or_true]

theorem Number.Single.denotes {x : Single} (h : x.ReadsBack) :
    (Floating.toJson x).Denotes Reader.single x := by
  obtain ⟨n, hn, hread⟩ := Floating.ReadsBack.exists_numeral h
  rw [hn]
  refine ⟨fun _ => hread, ?_⟩
  rw [Json.isReadable]
  cases hi : n.integer? with
  | some i => rfl
  | none =>
    rw [Numeral.single?, hi] at hread
    obtain ⟨y, hy, _⟩ := Option.map_eq_some_iff.mp hread
    rw [hy]
    rfl

/-! ## Places -/

/-- Both coordinates are read back. -/
def Point.Writable (p : Point) : Prop :=
  Double.ReadsBack p.x ∧ Double.ReadsBack p.y

theorem Point.denotes {p : Point} (h : p.Writable) : p.toJson.Denotes Point.ofDocument? p := by
  have hx := Double.denotes h.1
  have hy := Double.denotes h.2
  refine .record (by simp [Point.members]) (by simp) (fun held => ?_) ?_
  · simp [Members.required_given_cons, hx.reads, hy.reads]
  · simp [hx.readable, hy.readable]

theorem Metric.denotes (m : Metric) : m.toJson.Denotes Metric.ofDocument? m := by
  cases m <;> exact ⟨fun _ => rfl, rfl⟩

/-- The number is read back. -/
def Distance.Writable (d : Distance) : Prop :=
  Double.ReadsBack d.value

theorem Distance.denotes {d : Distance} (h : d.Writable) :
    d.toJson.Denotes Distance.ofDocument? d := by
  have hvalue := Double.denotes h
  have hmetric := Metric.denotes d.metric
  refine .record (by simp [Distance.members]) (by simp) (fun held => ?_) ?_
  · simp [Members.required_given_cons, Members.withDefault_given_cons, hvalue.reads, hmetric.reads]
  · simp [hvalue.readable, hmetric.readable]

/-- All coordinates are read back. -/
def GeoBox.Writable (b : GeoBox) : Prop :=
  b.first.Writable ∧ b.second.Writable

theorem GeoBox.denotes {b : GeoBox} (h : b.Writable) : b.toJson.Denotes GeoBox.ofDocument? b := by
  have hfirst := Point.denotes h.1
  have hsecond := Point.denotes h.2
  refine .record (by simp [GeoBox.members]) (by simp) (fun held => ?_) ?_
  · simp [Members.required_given_cons, hfirst.reads, hsecond.reads]
  · simp [hfirst.readable, hsecond.readable]

/-- All numbers in a shape are read back. -/
def GeoShape.Writable : GeoShape → Prop
  | .circle center distance => center.Writable ∧ distance.Writable
  | .box bounds => bounds.Writable

theorem GeoShape.denotes {g : GeoShape} (h : g.Writable) :
    g.toJson.Denotes GeoShape.ofDocument? g := by
  cases g with
  | circle center distance =>
    have hcenter := Point.denotes h.1
    have hdistance := Distance.denotes h.2
    refine .taggedRecord GeoShape.tags GeoShape.ofRecord? (by simp) ?_
    refine .record (by simp [GeoShape.circleMembers]) (by simp) (fun held => ?_) ?_
    · simp [Members.required_given_cons, hcenter.reads, hdistance.reads]
    · simp [hcenter.readable, hdistance.readable]
  | box bounds =>
    have hbounds := GeoBox.denotes h
    refine .taggedRecord GeoShape.tags GeoShape.ofRecord? (by simp) ?_
    refine .record (by simp [GeoShape.boxMembers]) (by simp) (fun held => ?_) ?_
    · simp [Members.required_given_cons, hbounds.reads]
    · simp [hbounds.readable]

/-! ## Values -/

theorem Number.Decimal.denotes (d : Decimal) :
    (Json.string d.text).Denotes Decimal.ofDocument? d.unsigned :=
  ⟨fun _ => d.ofText?_text, rfl⟩

theorem Time.Instant.denotes (t : Instant) :
    (Json.string t.exactText).Denotes Instant.ofDocument? t :=
  ⟨fun _ => t.ofText?_exactText, rfl⟩

namespace Value

/-- A value that has a document and comes back from it. -/
def Writable : Value → Prop
  | float x => Double.ReadsBack x
  | point p => p.Writable
  | distance d => d.Writable
  | box b => b.Writable
  | custom _ => False
  | _ => True

/-- The value with no sign on a decimal zero. -/
def unsigned : Value → Value
  | decimal d => decimal d.unsigned
  | v => v

theorem unsigned_unsigned (v : Value) : v.unsigned.unsigned = v.unsigned := by
  cases v with
  | decimal d => exact congrArg decimal d.unsigned_unsigned
  | _ => rfl

/-- The comparison of values does not see the sign of a decimal zero. -/
theorem unsigned_beq (v : Value) : (v.unsigned == v) = true := by
  cases v with
  | null => rfl
  | decimal d => exact d.unsigned_beq
  | bool b => exact beq_self_eq_true b
  | integer i => exact beq_self_eq_true i
  | float x => exact beq_self_eq_true x
  | text s => exact beq_self_eq_true s
  | dateTime t => exact beq_self_eq_true t
  | point p => exact beq_self_eq_true p
  | distance d => exact beq_self_eq_true d
  | box b => exact beq_self_eq_true b
  | custom c => exact beq_self_eq_true c

theorem denotes {v : Value} (h : v.Writable) : v.toJson.Denotes ofDocument? v.unsigned := by
  have content : ∀ {type : String} {j : Json} {v : Value},
      j.Denotes (fun d => ofContent? type (some d)) v → (withType type j).Denotes ofDocument? v :=
    fun h => .tagged types ofContent? (by decide) h
  cases v with
  | null =>
    refine ⟨fun held => ?_, rfl⟩
    rw [ofDocument?, toJson, Document.tagged?_alone types "null" held (by decide)]
    rfl
  | bool b => exact content ((Json.Denotes.bool b).map bool)
  | integer i => exact content ((Json.Denotes.int64 i).map integer)
  | float x => exact content ((Double.denotes h).map float)
  | decimal d => exact content (d.denotes.map decimal)
  | text s => exact content ((Json.Denotes.string s).map text)
  | dateTime t => exact content (t.denotes.map dateTime)
  | point p => exact content ((Point.denotes h).map point)
  | distance d => exact content ((Distance.denotes h).map distance)
  | box b => exact content ((GeoBox.denotes h).map box)
  | custom c => exact h.elim

theorem toJson_ne_null (v : Value) : v.toJson ≠ .null := by
  cases v <;> exact nofun

end Value

/-! ## Ranges, fields and sortings -/

/-- The bounds of a range are read back. -/
def ValueRange.Writable (r : ValueRange) : Prop :=
  (∀ v ∈ r.lower, v.Writable) ∧ (∀ v ∈ r.upper, v.Writable)

/-- The range with no sign on decimal zeros. -/
def ValueRange.unsigned (r : ValueRange) : ValueRange :=
  { r with lower := r.lower.map Value.unsigned, upper := r.upper.map Value.unsigned }

theorem ValueRange.denotes {r : ValueRange} (h : r.Writable) :
    r.toJson.Denotes ValueRange.ofDocument? r.unsigned := by
  have hlower := Json.Denotes.optionalMap (fun v hv => Value.denotes (h.1 v hv))
    Value.toJson_ne_null
  have hupper := Json.Denotes.optionalMap (fun v hv => Value.denotes (h.2 v hv))
    Value.toJson_ne_null
  have hincludeLower := Json.Denotes.bool r.includeLower
  have hincludeUpper := Json.Denotes.bool r.includeUpper
  refine .record (by simp [ValueRange.members]) (by simp) (fun held => ?_) ?_
  · simp [Members.withDefault_given_cons, hlower.reads, hupper.reads, hincludeLower.reads,
      hincludeUpper.reads, ValueRange.unsigned]
  · simp [hlower.readable, hupper.readable]

/-- The boost of a field is read back. -/
def Field.Writable (f : Field) : Prop :=
  ∀ boost ∈ f.boost, Single.ReadsBack boost

/-- A boost at the end of a record is read back, and so is that there is none. -/
theorem boostMember_reads {boost : Option Single} (h : ∀ x ∈ boost, Single.ReadsBack x)
    (held : Bool) :
    (Members.given held (boostMember boost)).withDefault "boost" none
      (Reader.optional Reader.single) = some boost := by
  cases boost with
  | none => rfl
  | some x =>
    have hx := (Single.denotes (h x rfl)).some (h x rfl).toJson_ne_null
    rw [boostMember, Members.withDefault_given_cons, if_pos rfl, hx.reads]

theorem boostMember_readable {boost : Option Single} (h : ∀ x ∈ boost, Single.ReadsBack x) :
    (Json.object (boostMember boost)).isReadable = true := by
  cases boost with
  | none => rfl
  | some x => simp [boostMember, (Single.denotes (h x rfl)).readable]

theorem Field.denotes {f : Field} (h : f.Writable) : f.toJson.Denotes Field.ofDocument? f := by
  obtain ⟨name, boost⟩ := f
  have hname := Json.Denotes.string name
  refine .record (by cases boost <;> simp [boostMember, Field.members])
    (by cases boost <;> simp [boostMember]) (fun held => ?_) ?_
  · simp [Members.required_given_cons, Members.withDefault_given_cons, hname.reads,
      boostMember_reads h]
  · simp [boostMember_readable h]

theorem Direction.denotes (d : Direction) :
    (choiceName Direction.names d).Denotes (Reader.choice Direction.names) d := by
  cases d <;> exact ⟨fun _ => rfl, rfl⟩

theorem Junction.denotes (j : Junction) :
    (choiceName Junction.names j).Denotes (Reader.choice Junction.names) j := by
  cases j <;> exact ⟨fun _ => rfl, rfl⟩

theorem Operator.denotes (o : Operator) :
    (choiceName Operator.names o).Denotes (Reader.choice Operator.names) o := by
  cases o <;> exact ⟨fun _ => rfl, rfl⟩

theorem FacetSort.denotes (s : FacetSort) :
    (choiceName FacetSort.names s).Denotes (Reader.choice FacetSort.names) s := by
  cases s <;> exact ⟨fun _ => rfl, rfl⟩

theorem SortOrder.denotes {o : SortOrder} (h : o.field.Writable) :
    o.toJson.Denotes SortOrder.ofDocument? o := by
  have hfield := Field.denotes h
  have hdirection := Direction.denotes o.direction
  refine .record (by simp [SortOrder.members]) (by simp) (fun held => ?_) ?_
  · simp [Members.required_given_cons, Members.withDefault_given_cons, hfield.reads,
      hdirection.reads]
  · simp [hfield.readable, hdirection.readable]

/-- The fields of a sorting are read back. -/
def Sorting.Writable (s : Sorting) : Prop :=
  ∀ o ∈ s, o.field.Writable

theorem Sorting.denotes {s : Sorting} (h : s.Writable) :
    (Sorting.toJson s).Denotes Sorting.ofDocument? s :=
  Json.Denotes.list fun o ho => SortOrder.denotes (h o ho)

end SolrRequest

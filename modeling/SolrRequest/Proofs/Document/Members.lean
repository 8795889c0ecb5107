import SolrRequest.Document.Members

/-!
# Reading written members back

A JSON value *denotes* a value for a reader when it is read as that value wherever it stands, held
back for a tag or not, and can be held back itself (`Json.Denotes`).

* `Document.members?_given`: a record that is written with some of its known members, in their
  order, is read as these members.
* `Document.tagged?_withContent`, `Document.taggedRecord?_given`: tags are read in front of what
  they are the tags of.
* `Json.Denotes.record`, `Json.Denotes.tagged`, `Json.Denotes.taggedRecord`: the same for what
  denotes, once the members and the content denote something.
* `Json.Denotes.list`, `Json.Denotes.optional` and the denotations of scalars: what members are
  made of.
-/

namespace SolrRequest

open Number

/-! ## Readable parts -/

namespace Json

@[simp]
theorem isReadable_string (s : String) : (Json.string s).isReadable = true := rfl

@[simp]
theorem isReadable_bool (b : Bool) : (Json.bool b).isReadable = true := rfl

@[simp]
theorem isReadable_object_nil : (Json.object []).isReadable = true := rfl

@[simp]
theorem isReadable_object_cons (name : String) (j : Json) (r : List Member) :
    (Json.object (⟨name, j⟩ :: r)).isReadable = (j.isReadable && (Json.object r).isReadable) := rfl

@[simp]
theorem isReadable_array_cons (j : Json) (r : List Json) :
    (Json.array (j :: r)).isReadable = (j.isReadable && (Json.array r).isReadable) := rfl

mutual

/-- What can be held back can be written. -/
theorem isWhole_of_isReadable : ∀ j : Json, j.isReadable = true → j.isWhole = true
  | .null, _ => rfl
  | .bool _, _ => rfl
  | .number _, _ => rfl
  | .string _, _ => rfl
  | .array items, h => areWhole_of_areReadable items h
  | .object members, h => membersAreWhole_of_readable members h

theorem areWhole_of_areReadable : ∀ items : List Json, areReadable items = true →
    areWhole items = true
  | [], _ => rfl
  | j :: r, h => by
    rw [areReadable, Bool.and_eq_true] at h
    rw [areWhole, isWhole_of_isReadable j h.1, areWhole_of_areReadable r h.2]
    rfl

theorem membersAreWhole_of_readable : ∀ members : List Member,
    membersAreReadable members = true → membersAreWhole members = true
  | [], _ => rfl
  | ⟨_, j⟩ :: r, h => by
    rw [membersAreReadable, Bool.and_eq_true] at h
    rw [membersAreWhole, isWhole_of_isReadable j h.1, membersAreWhole_of_readable r h.2]
    rfl

end

end Json

/-! ## Records -/

/-- What has been read is given to the rest of a reader. Long readers are followed with this lemma:
as `Option.bind` the steps would be gone through twice at every level. -/
theorem Reader.some_bind {α β : Type} (a : α) (f : α → Option β) : (some a >>= f) = f a := rfl

namespace Members

/-- Written members as they are read. -/
def given (held : Bool) (members : List Member) : Members :=
  members.map fun m => (m.name, ⟨m.value, held⟩)

variable {α : Type} (held : Bool) (name key : String) (j : Json) (r : List Member)
  (read : Reader α)

theorem required_given_cons :
    (given held (⟨key, j⟩ :: r)).required name read =
      if name = key then read ⟨j, held⟩ else (given held r).required name read := by
  by_cases h : name = key
  · simp [given, required, h]
  · simp [given, required, List.lookup_cons, h, beq_eq_false_iff_ne.mpr h]

theorem withDefault_given_cons (default : α) :
    (given held (⟨key, j⟩ :: r)).withDefault name default read =
      if name = key then read ⟨j, held⟩ else (given held r).withDefault name default read := by
  by_cases h : name = key
  · simp [given, withDefault, h]
  · simp [given, withDefault, List.lookup_cons, h, beq_eq_false_iff_ne.mpr h]

end Members

namespace Document

theorem distinctNames_given (held : Bool) {members : List Member}
    (h : (members.map (·.name)).Nodup) : distinctNames (Members.given held members) = true := by
  induction members with
  | nil => rfl
  | cons m r ih =>
    rw [List.map_cons, List.nodup_cons] at h
    have hnames : (Members.given held r).map Prod.fst = r.map (·.name) := by
      simp [Members.given]
    have hfresh : ((Members.given held r).map Prod.fst).contains m.name = false := by
      rw [hnames]
      exact Bool.eq_false_iff.mpr fun hmem => h.1 (List.contains_iff_mem.mp hmem)
    show (!((Members.given held r).map Prod.fst).contains m.name &&
      distinctNames (Members.given held r)) = true
    rw [hfresh, ih h.2]
    rfl

/-- A record of known members, each written once, is read as they are written. -/
theorem members?_given (known : List String) (held : Bool) {members : List Member}
    (hknown : ∀ name ∈ members.map (·.name), name ∈ known)
    (hdistinct : (members.map (·.name)).Nodup) :
    members? ⟨.object members, held⟩ known = some (Members.given held members) := by
  have hfilter : members.filter (fun m => known.contains m.name) = members :=
    List.filter_eq_self.mpr fun m hm =>
      List.contains_iff_mem.mpr (hknown m.name (List.mem_map_of_mem hm))
  have hkept : knownMembers ⟨.object members, held⟩ known members = Members.given held members := by
    rw [knownMembers, hfilter]
    rfl
  simp only [members?, hkept, distinctNames_given held hdistinct, if_true]

/-! ## Tags -/

/-- A tag with its content, which stands behind it. -/
theorem tagged?_withContent {tag content : String} (names : List String) (name : String)
    (j : Json) (held : Bool) (hne : tag ≠ content) :
    tagged? tag content names ⟨.object [⟨tag, .string name⟩, ⟨content, j⟩], held⟩ =
      some (name, some ⟨j, held⟩) := by
  have htag : membersNamed tag [⟨tag, .string name⟩, ⟨content, j⟩] = [.string name] := by
    simp [membersNamed, hne.symm]
  have hcontent : membersNamed content [⟨tag, .string name⟩, ⟨content, j⟩] = [j] := by
    simp [membersNamed, hne]
  have hfirst : contentFirst tag content [⟨tag, .string name⟩, ⟨content, j⟩] = false := by
    simp [contentFirst, hne]
  simp only [tagged?, htag, hcontent, hfirst]
  rfl

/-- A tag without a content. -/
theorem tagged?_alone {tag content : String} (names : List String) (name : String) (held : Bool)
    (hne : tag ≠ content) :
    tagged? tag content names ⟨.object [⟨tag, .string name⟩], held⟩ = some (name, none) := by
  have htag : membersNamed tag [⟨tag, .string name⟩] = [.string name] := by
    simp [membersNamed]
  have hcontent : membersNamed content [⟨tag, .string name⟩] = [] := by
    simp [membersNamed, hne]
  simp only [tagged?, htag, hcontent]
  rfl

/-- The tag of a record in front of its members, of which none has the name of the tag. -/
theorem taggedRecord?_given {tag : String} (names : List String) (name : String)
    {members : List Member} (held : Bool) (hreadable : (Json.object members).isReadable = true)
    (hne : ∀ m ∈ members, m.name ≠ tag) :
    taggedRecord? tag names ⟨.object (⟨tag, .string name⟩ :: members), held⟩ =
      some (name, ⟨.object members, true⟩) := by
  have hnone : members.filter (fun m => m.name == tag) = [] :=
    List.filter_eq_nil_iff.mpr fun m hm => by simpa using hne m hm
  have htag : membersNamed tag (⟨tag, .string name⟩ :: members) = [.string name] := by
    simp [membersNamed, hnone]
  have hrest : (⟨tag, .string name⟩ :: members).filter (fun m => m.name != tag) = members := by
    rw [List.filter_cons, if_neg (by simp)]
    exact List.filter_eq_self.mpr fun m hm => by simpa using hne m hm
  have hall : (Json.object (⟨tag, .string name⟩ :: members)).isReadable = true := by
    simp [hreadable]
  rw [taggedRecord?, if_pos hall]
  simp only [htag, hrest]
  rfl

end Document

/-! ## Denotations -/

/-- A JSON value is read as a value wherever it stands, and every part of it can be held back. -/
structure Json.Denotes {α : Type} (j : Json) (read : Reader α) (a : α) : Prop where
  reads : ∀ held, read ⟨j, held⟩ = some a
  readable : j.isReadable = true

namespace Json.Denotes

variable {α : Type} {read : Reader α} {j : Json} {a : α}

theorem map {β : Type} (f : α → β) (h : j.Denotes read a) :
    j.Denotes (fun d => (read d).map f) (f a) where
  reads held := by rw [h.reads, Option.map_some]
  readable := h.readable

theorem string (s : String) : (Json.string s).Denotes Reader.string s :=
  ⟨fun _ => rfl, rfl⟩

theorem bool (b : Bool) : (Json.bool b).Denotes Reader.bool b :=
  ⟨fun _ => rfl, rfl⟩

/-- What is no null denotes something for the optional reader as well. -/
theorem some (h : j.Denotes read a) (hj : j ≠ .null) :
    j.Denotes (Reader.optional read) (some a) where
  reads held := by
    unfold Reader.optional
    split
    · next hnull => exact absurd hnull hj
    · rw [h.reads, Option.map_some]
  readable := h.readable

theorem none : Json.null.Denotes (Reader.optional read) none :=
  ⟨fun _ => rfl, rfl⟩

theorem nil : (Json.array []).Denotes (Reader.list read) [] :=
  ⟨fun _ => rfl, rfl⟩

theorem cons {items : List Json} {l : List α} (h : j.Denotes read a)
    (hrest : (Json.array items).Denotes (Reader.list read) l) :
    (Json.array (j :: items)).Denotes (Reader.list read) (a :: l) where
  reads held := by
    have hlist : items.mapM (fun j => read ⟨j, held⟩) = .some l := hrest.reads held
    show (j :: items).mapM (fun j => read ⟨j, held⟩) = .some (a :: l)
    simp only [List.mapM_cons, h.reads, hlist, Option.bind_eq_bind, Option.bind_some]
    rfl
  readable := by simp [h.readable, hrest.readable]

theorem list {write : α → Json} {l : List α} (h : ∀ a ∈ l, (write a).Denotes read a) :
    (Json.array (l.map write)).Denotes (Reader.list read) l := by
  induction l with
  | nil => exact nil
  | cons a r ih =>
    exact cons (h a List.mem_cons_self) (ih fun c hc => h c (List.mem_cons_of_mem _ hc))

/-- An optional value that is read as another one; null where there is none. -/
theorem optionalMap {β : Type} {write : β → Json} {f : β → α} {o : Option β}
    (h : ∀ b ∈ o, (write b).Denotes read (f b)) (hwrite : ∀ b, write b ≠ .null) :
    (Json.ofOption (o.map write)).Denotes (Reader.optional read) (o.map f) := by
  cases o with
  | none => exact none
  | some b => exact (h b rfl).some (hwrite b)

/-- An optional value, null where there is none. -/
theorem optional {write : α → Json} {o : Option α} (h : ∀ a ∈ o, (write a).Denotes read a)
    (hwrite : ∀ a, write a ≠ .null) :
    (Json.ofOption (o.map write)).Denotes (Reader.optional read) o := by
  have hmap := optionalMap (f := id) h hwrite
  rwa [Option.map_id, id_eq] at hmap

/-- A record of known members, each written once, from which a value is read. -/
theorem record {known : List String} {members : List Member} {ofMembers : Members → Option α}
    (hknown : ∀ name ∈ members.map (·.name), name ∈ known)
    (hdistinct : (members.map (·.name)).Nodup)
    (hreads : ∀ held, ofMembers (Members.given held members) = .some a)
    (hreadable : (Json.object members).isReadable = true) :
    (Json.object members).Denotes (fun d => d.members? known >>= ofMembers) a where
  reads held := by
    rw [Document.members?_given known held hknown hdistinct]
    exact hreads held
  readable := hreadable

/-- A record that has to be an object. -/
theorem objectRecord {known : List String} {members : List Member}
    {ofMembers : Members → Option α} (hknown : ∀ name ∈ members.map (·.name), name ∈ known)
    (hdistinct : (members.map (·.name)).Nodup)
    (hreads : ∀ held, ofMembers (Members.given held members) = .some a)
    (hreadable : (Json.object members).isReadable = true) :
    (Json.object members).Denotes (fun d => d.objectMembers? known >>= ofMembers) a where
  reads := (record hknown hdistinct hreads hreadable).reads
  readable := hreadable

/-- A tag with a content that is read under that tag. -/
theorem tagged {tag content name : String} (names : List String)
    (ofContent : String → Option Document → Option α) (hne : tag ≠ content)
    (h : j.Denotes (fun d => ofContent name (.some d)) a) :
    (Json.object [⟨tag, .string name⟩, ⟨content, j⟩]).Denotes
      (fun d => do
        let (tag, content) ← d.tagged? tag content names
        ofContent tag content) a where
  reads held := by
    rw [Document.tagged?_withContent names name j held hne]
    exact h.reads held
  readable := by
    simp [h.readable]

/-- A tag in front of a record that is read under that tag. -/
theorem taggedRecord {tag name : String} {members : List Member} (names : List String)
    (ofRecord : String → Document → Option α) (hne : ∀ m ∈ members, m.name ≠ tag)
    (h : (Json.object members).Denotes (ofRecord name) a) :
    (Json.object (⟨tag, .string name⟩ :: members)).Denotes
      (fun d => do
        let (tag, rest) ← d.taggedRecord? tag names
        ofRecord tag rest) a where
  reads held := by
    rw [Document.taggedRecord?_given names name held h.readable hne]
    exact h.reads true
  readable := by
    simp [h.readable]

/-! ## Numbers -/

theorem integer?_ofInt {i : Int} (hlow : Int64.minValue.toInt ≤ i) (hhigh : i < UInt64.size) :
    (Numeral.ofInt i).integer? = .some i := by
  unfold Numeral.integer? Numeral.ofInt
  by_cases hneg : i < 0
  · have habs : -(i.natAbs : Int) = i := by omega
    simp only [hneg, decide_true, if_true, true_and, habs]
    rw [if_pos ⟨by omega, hlow⟩]
  · have habs : (i.natAbs : Int) = i := by omega
    have hfits : i.natAbs < UInt64.size := by omega
    simp [hneg, hfits, habs]

theorem integer (low high : Int) {i : Int} (hmin : Int64.minValue.toInt ≤ low)
    (hmax : high < UInt64.size) (hlow : low ≤ i) (hhigh : i ≤ high) :
    (Json.ofInt i).Denotes (Reader.integer low high) i where
  reads held := by
    have hread := integer?_ofInt (i := i) (by omega) (by omega)
    show (Numeral.ofInt i).integer?.filter _ = _
    rw [hread]
    simp [hlow, hhigh]
  readable := by
    have hread := integer?_ofInt (i := i) (by omega) (by omega)
    rw [ofInt, isReadable, hread]
    rfl

theorem uint8 (n : UInt8) : (Json.ofNat n.toNat).Denotes Reader.uint8 n := by
  have hn := n.toNat_lt
  have h := (integer 0 0xFF (i := n.toNat) (by decide) (by decide) (by omega) (by omega)).map
    fun i => UInt8.ofNat i.toNat
  rwa [Int.toNat_natCast, UInt8.ofNat_toNat] at h

theorem uint32 (n : UInt32) : (Json.ofNat n.toNat).Denotes Reader.uint32 n := by
  have hn := n.toNat_lt
  have h := (integer 0 0xFFFFFFFF (i := n.toNat) (by decide) (by decide) (by omega)
    (by omega)).map fun i => UInt32.ofNat i.toNat
  rwa [Int.toNat_natCast, UInt32.ofNat_toNat] at h

theorem uint64 (n : UInt64) : (Json.ofNat n.toNat).Denotes Reader.uint64 n := by
  have hn := n.toNat_lt
  have h := (integer 0 0xFFFFFFFFFFFFFFFF (i := n.toNat) (by decide) (by decide)
    (by omega) (by omega)).map fun i => UInt64.ofNat i.toNat
  rwa [Int.toNat_natCast, UInt64.ofNat_toNat] at h

theorem int32 (n : Int32) : (Json.ofInt n.toInt).Denotes Reader.int32 n := by
  have h := (integer _ _ (by decide) (by decide) n.minValue_le_toInt n.toInt_le).map Int32.ofInt
  rwa [Int32.ofInt_toInt] at h

theorem int64 (n : Int64) : (Json.ofInt n.toInt).Denotes Reader.int64 n := by
  have h := (integer _ _ (by decide) (by decide) n.minValue_le_toInt n.toInt_le).map Int64.ofInt
  rwa [Int64.ofInt_toInt] at h

end Json.Denotes

end SolrRequest

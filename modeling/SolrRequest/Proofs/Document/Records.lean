import Mathlib.Data.List.Nodup
import SolrRequest.Proofs.Document.Stability

/-!
# Records and tags under edits

What edits change in the members of a record, in the content under a tag, and in the record with a
tag among its members (`Members.vary_of_varies`, `TaggedType.vary_of_varies`,
`TaggedRecordType.vary_of_varies`). It follows that readers of these three shapes are stable when
they read their parts by stable readers (`Stable.record`, `Stable.tagged`, `Stable.taggedRecord`).
-/

namespace SolrRequest

open Document

/-! ## Reading members -/

namespace Document

theorem distinctNames_iff {members : Members} :
    distinctNames members = true ↔ (members.map Prod.fst).Nodup := by
  induction members with
  | nil => simp [distinctNames]
  | cons m r ih =>
    obtain ⟨name, d⟩ := m
    simp [distinctNames, ih]

variable {known : List String} {members : List Member} {held : Bool} {name : String} {m : Members}

/-- A known member is looked up among the values that are given under its name. -/
theorem lookup_knownMembers (d : Document) (hname : name ∈ known) :
    (d.knownMembers known members).lookup name =
      (membersNamed name members).head?.map d.part := by
  induction members with
  | nil => rfl
  | cons m r ih =>
    by_cases hm : m.name = name
    · subst hm
      simp [knownMembers, membersNamed, hname]
    · have hne : ¬name = m.name := fun h => hm h.symm
      rw [membersNamed_cons_of_ne hm, ← ih]
      by_cases hknown : m.name ∈ known
      · simp [knownMembers, hknown, List.lookup_cons, beq_eq_false_iff_ne.mpr hne]
      · simp [knownMembers, hknown]

theorem count_knownMembers (d : Document) (hname : name ∈ known) :
    ((d.knownMembers known members).map Prod.fst).count name =
      (membersNamed name members).length := by
  induction members with
  | nil => rfl
  | cons m r ih =>
    by_cases hm : m.name = name
    · obtain ⟨_, j⟩ := m
      cases hm
      rw [membersNamed_cons_self, List.length_cons, ← ih]
      simp [knownMembers, hname]
    · rw [membersNamed_cons_of_ne hm, ← ih]
      by_cases hknown : m.name ∈ known
      · simp [knownMembers, hknown, hm]
      · simp [knownMembers, hknown]

/-- An object is read as a record when no known member is repeated. -/
theorem members?_object_eq_some_iff :
    members? ⟨.object members, held⟩ known = some m ↔
      (∀ name ∈ known, (membersNamed name members).length ≤ 1) ∧
        m = knownMembers ⟨.object members, held⟩ known members := by
  have hdistinct : distinctNames (knownMembers ⟨.object members, held⟩ known members) = true ↔
      ∀ name ∈ known, (membersNamed name members).length ≤ 1 := by
    rw [distinctNames_iff, List.nodup_iff_count_le_one]
    constructor
    · intro h name hname
      rw [← count_knownMembers ⟨.object members, held⟩ hname]
      exact h name
    · intro h name
      by_cases hname : name ∈ known
      · rw [count_knownMembers _ hname]
        exact h name hname
      · rw [List.count_eq_zero_of_not_mem]
        · exact Nat.zero_le 1
        · simp only [knownMembers, List.map_map, List.mem_map, List.mem_filter]
          rintro ⟨m, ⟨-, hm⟩, rfl⟩
          exact hname (List.contains_iff_mem.mp hm)
  rw [← hdistinct]
  simp only [members?]
  split
  · next h => simp [h, eq_comm]
  · next h => simp [h]

/-- An array is read as a record when it has no more items than there are members. -/
theorem members?_array_eq_some_iff {items : List Json} :
    members? ⟨.array items, held⟩ known = some m ↔
      items.length ≤ known.length ∧ m = known.zip (items.map (Document.mk · held)) := by
  simp only [members?]
  split
  · next h =>
    simp only [h, true_and, Option.some.injEq, eq_comm]
    exact .rfl
  · next h => simp [h]

theorem lookup_zip (hknown : known.Nodup) {i : Nat} (hname : known[i]? = some name)
    (l : List Document) : (known.zip l).lookup name = l[i]? := by
  induction known generalizing i l with
  | nil => cases hname
  | cons other r ih =>
    obtain ⟨hother, hr⟩ := List.nodup_cons.mp hknown
    cases l with
    | nil => simp
    | cons d l =>
      cases i with
      | zero =>
        cases Option.some.inj hname
        simp
      | succ i =>
        rw [List.getElem?_cons_succ] at hname
        have hne : name ≠ other := fun h => hother (h ▸ List.mem_of_getElem? hname)
        rw [List.zip_cons_cons, List.lookup_cons, beq_eq_false_iff_ne.mpr hne]
        exact ih hr hname l

end Document

/-! ## Inserted members -/

namespace Document

variable {name : String} {m : Member} {before after : List Member}

theorem membersNamed_insert (h : m.name ≠ name) :
    membersNamed name (before ++ m :: after) = membersNamed name (before ++ after) := by
  rw [membersNamed_append, membersNamed_append, membersNamed_cons_of_ne h]

/-- A member without others of its name. -/
theorem membersNamed_only (j : Json) (h : membersNamed name (before ++ after) = []) :
    membersNamed name (before ++ ⟨name, j⟩ :: after) = [j] := by
  obtain ⟨hbefore, hafter⟩ := List.append_eq_nil_iff.mp (membersNamed_append ▸ h)
  rw [membersNamed_append, membersNamed_cons_self, hbefore, hafter]
  rfl

/-- There are no others besides a member that is not repeated. -/
theorem membersNamed_rest {j : Json}
    (h : (membersNamed name (before ++ ⟨name, j⟩ :: after)).length ≤ 1) :
    membersNamed name (before ++ after) = [] := by
  rw [membersNamed_append, membersNamed_cons_self] at h
  rw [membersNamed_append, ← List.length_eq_zero_iff]
  simp only [List.length_append, List.length_cons] at h ⊢
  omega

end Document

/-! ## Records -/

theorem eq_of_perm_of_length_le_one {α : Type} {l l' : List α} (h : l.Perm l')
    (hl : l.length ≤ 1) : l = l' := by
  match l with
  | [] => exact h.nil_eq
  | [a] => exact h.singleton_eq
  | _ :: _ :: _ => simp at hl

namespace RecordType

theorem known_nodup (t : RecordType) : t.known.Nodup := by
  cases t <;> decide

/-- A member has one rule. -/
theorem rule_eq {t : RecordType} {rule other : MemberRule} (hrule : rule ∈ t.members)
    (hother : other ∈ t.members) (h : rule.name = other.name) : rule = other :=
  List.inj_on_of_nodup_map t.known_nodup hrule hother h

theorem name_mem_known {t : RecordType} {rule : MemberRule} (h : rule ∈ t.members) :
    rule.name ∈ t.known :=
  List.mem_map_of_mem h

end RecordType

namespace Members

variable {drops : Bool} {t : RecordType} {m : Members} {held held' : Bool}

/-- Objects are compared member by member; what is given is not repeated. -/
theorem vary_of_object {members members' : List Member}
    (hm : members? ⟨.object members, held⟩ t.known = some m)
    (h : ∀ rule ∈ t.members, (membersNamed rule.name members).length ≤ 1 →
      (membersNamed rule.name members').length ≤ 1 ∧
        MemberVaries drops rule ((membersNamed rule.name members).head?.map (⟨·, held⟩))
          ((membersNamed rule.name members').head?.map (⟨·, held'⟩))) :
    ∃ m', members? ⟨.object members', held'⟩ t.known = some m' ∧ Vary drops t.members m m' := by
  obtain ⟨hsingle, rfl⟩ := members?_object_eq_some_iff.mp hm
  refine ⟨_, members?_object_eq_some_iff.mpr ⟨fun name hname => ?_, rfl⟩, fun rule hrule => ?_⟩
  · obtain ⟨rule, hrule, rfl⟩ := List.mem_map.mp hname
    exact (h rule hrule (hsingle _ hname)).1
  · have hname := RecordType.name_mem_known hrule
    rw [lookup_knownMembers _ hname, lookup_knownMembers _ hname]
    exact (h rule hrule (hsingle _ hname)).2

/-- Arrays are compared item by item. -/
theorem vary_of_array {items items' : List Json}
    (hm : members? ⟨.array items, held⟩ t.known = some m) (hlength : items'.length = items.length)
    (h : ∀ (i : Nat) rule, t.members[i]? = some rule →
      MemberVaries drops rule (items[i]?.map (⟨·, held⟩)) (items'[i]?.map (⟨·, held'⟩))) :
    ∃ m', members? ⟨.array items', held'⟩ t.known = some m' ∧ Vary drops t.members m m' := by
  obtain ⟨hle, rfl⟩ := members?_array_eq_some_iff.mp hm
  refine ⟨_, members?_array_eq_some_iff.mpr ⟨hlength ▸ hle, rfl⟩, fun rule hrule => ?_⟩
  obtain ⟨i, hi⟩ := List.getElem?_of_mem hrule
  have hname : t.known[i]? = some rule.name := by
    rw [RecordType.known, List.getElem?_map, hi]
    rfl
  rw [lookup_zip t.known_nodup hname, lookup_zip t.known_nodup hname, List.getElem?_map,
    List.getElem?_map]
  exact h i rule hi

/-- The members of an edited record. -/
theorem vary_of_edit {j j' : Json} (hreadable : held = true → j.isReadable = true)
    (h : Edit drops (.record t) held j j') (hm : members? ⟨j, held⟩ t.known = some m) :
    ∃ m', members? ⟨j', held⟩ t.known = some m' ∧ Vary drops t.members m m' := by
  cases h with
  | permuted _ hperm =>
    refine vary_of_object hm fun rule _ hsingle => ?_
    rw [← eq_of_perm_of_length_le_one (membersNamed_perm hperm) hsingle]
    exact ⟨hsingle, .same _⟩
  | added before after hknown hname =>
    cases hknown
    refine vary_of_object hm fun rule hrule hsingle => ?_
    rw [membersNamed_insert fun h => hname (h ▸ RecordType.name_mem_known hrule)]
    exact ⟨hsingle, .same _⟩
  | removed before after hknown hname =>
    cases hknown
    refine vary_of_object hm fun rule hrule hsingle => ?_
    rw [membersNamed_insert fun h => hname (h ▸ RecordType.name_mem_known hrule)] at hsingle ⊢
    exact ⟨hsingle, .same _⟩
  | @dropped _ _ other before v after _ hother hdefault =>
    refine vary_of_object hm fun rule hrule hsingle => ?_
    by_cases hname : other.name = rule.name
    · cases RecordType.rule_eq hother hrule hname
      have hrest := membersNamed_rest hsingle
      rw [hrest, membersNamed_only v hrest]
      exact ⟨Nat.zero_le 1, .dropped hdefault⟩
    · rw [membersNamed_insert hname] at hsingle ⊢
      exact ⟨hsingle, .same _⟩
  | @inMember _ _ other before v v' after hother hedit =>
    refine vary_of_object hm fun rule hrule hsingle => ?_
    by_cases hname : other.name = rule.name
    · cases RecordType.rule_eq hother hrule hname
      have hrest := membersNamed_rest hsingle
      rw [membersNamed_only v hrest, membersNamed_only v' hrest]
      refine ⟨(Nat.le_refl _), .given (.edited (fun hheld => ?_) hedit)⟩
      exact Json.isReadable_object_iff.mp (hreadable hheld) ⟨other.name, v⟩ (by simp)
    · rw [membersNamed_insert hname] at hsingle ⊢
      rw [membersNamed_insert hname]
      exact ⟨hsingle, .same _⟩
  | @inPlace _ _ other before v v' after hother hedit =>
    refine vary_of_array hm (by simp) fun i rule hrule => ?_
    have hset : before ++ v' :: after = (before ++ v :: after).set before.length v' := by simp
    by_cases hi : before.length = i
    · subst hi
      cases Option.some.inj (hother.symm.trans hrule)
      simp only [List.getElem?_append_right (Nat.le_refl _), Nat.sub_self, List.getElem?_cons_zero]
      refine .given (.edited (fun hheld => ?_) hedit)
      exact Json.isReadable_array_iff.mp (hreadable hheld) v (by simp)
    · rw [hset, List.getElem?_set_ne hi]
      exact .same _

/-- The members of a record that is held back or not. -/
theorem vary_of_heldBack {j : Json} (hreadable : j.isReadable = true)
    (h : AsWritten (.record t) j) (hm : members? ⟨j, held⟩ t.known = some m) :
    ∃ m', members? ⟨j, held'⟩ t.known = some m' ∧ Vary drops t.members m m' := by
  cases h with
  | record hobject harray =>
    cases j with
    | object members =>
      refine vary_of_object hm fun rule hrule hsingle => ⟨hsingle, ?_⟩
      cases hvalues : membersNamed rule.name members with
      | nil => exact .absent
      | cons v r =>
        have hv : v ∈ membersNamed rule.name members := hvalues ▸ List.mem_cons_self
        refine .given (.heldBack ?_ (hobject members rfl rule hrule v hv))
        exact Json.isReadable_object_iff.mp hreadable _ (mem_membersNamed.mp hv)
    | array items =>
      refine vary_of_array hm rfl fun i rule hrule => ?_
      cases hitem : items[i]? with
      | none => exact .absent
      | some v =>
        refine .given (.heldBack ?_ (harray items rfl i rule v hrule hitem))
        exact Json.isReadable_array_iff.mp hreadable v (List.mem_of_getElem? hitem)
    | _ => cases hm

theorem vary_of_varies {d d' : Document} (h : Varies drops (.record t) d d')
    (hm : d.members? t.known = some m) :
    ∃ m', d'.members? t.known = some m' ∧ Vary drops t.members m m' := by
  cases h with
  | same d => exact ⟨m, hm, fun rule _ => .same _⟩
  | edited hreadable hedit => exact vary_of_edit hreadable hedit hm
  | heldBack hreadable hwritten => exact vary_of_heldBack hreadable hwritten hm

end Members

namespace Stable

variable {α : Type} {drops : Bool} {t : RecordType} {known : List String}
  {body : Members → Option α}

/-- A record is read by a reader of its members that follows the rules. -/
theorem record (hknown : t.known = known) (h : Follows drops t.members body) :
    Stable drops (fun d => d.members? known >>= body) (.record t) := by
  subst hknown
  intro d d' a hvaries ha
  obtain ⟨m, hm, ha⟩ := Option.bind_eq_some_iff.mp ha
  obtain ⟨m', hm', hvary⟩ := Members.vary_of_varies hvaries hm
  exact Option.bind_eq_some_iff.mpr ⟨m', hm', h m m' a hvary ha⟩

/-- A record that has to be an object remains one. -/
theorem objectRecord (hknown : t.known = known) (h : Follows drops t.members body) :
    Stable drops (fun d => d.objectMembers? known >>= body) (.record t) := by
  intro d d' a hvaries ha
  obtain ⟨m, hm, hbody⟩ := Option.bind_eq_some_iff.mp ha
  obtain ⟨members, hd⟩ : ∃ members, d.value = .object members := by
    unfold objectMembers? at hm
    split at hm
    · next members hd => exact ⟨members, hd⟩
    · cases hm
  obtain ⟨members', hd'⟩ : ∃ members, d'.value = .object members := by
    cases hvaries with
    | same d => exact ⟨members, hd⟩
    | edited _ hedit => cases hedit <;> first | exact ⟨_, rfl⟩ | cases hd
    | heldBack => exact ⟨members, hd⟩
  have hread : ∀ (e : Document) (l : List Member), e.value = .object l →
      (e.objectMembers? known >>= body) = (e.members? known >>= body) := by
    intro e l he
    simp only [objectMembers?, he]
  have hrecord := record hknown h d d' a hvaries ((hread d members hd).symm.trans ha)
  exact (hread d' members' hd').trans hrecord

end Stable

/-! ## Tagged contents -/

namespace Document

variable {tag content name : String} {names : List String} {members : List Member} {held : Bool}
  {c : Option Document}

/-- What a content becomes that is given under a tag. -/
inductive ContentOf (tag content : String) (members : List Member) (held : Bool) :
    Option Document → Prop where
  | absent (h : membersNamed content members = []) : ContentOf tag content members held none
  | given {j : Json} (h : membersNamed content members = [j])
      (hreadable : contentFirst tag content members = true → j.isReadable = true) :
      ContentOf tag content members held (some ⟨j, held || contentFirst tag content members⟩)

/-- An object is read under its only tag. -/
theorem tagged?_object_eq_some_iff :
    tagged? tag content names ⟨.object members, held⟩ = some (name, c) ↔
      ∃ t, membersNamed tag members = [t] ∧ name? ⟨t, held⟩ = some name ∧
        ContentOf tag content members held c := by
  constructor
  · intro h
    simp only [tagged?] at h
    split at h
    · next t htag hcontent =>
      obtain ⟨n, hn, h⟩ := Option.map_eq_some_iff.mp h
      cases h
      exact ⟨t, htag, hn, .absent hcontent⟩
    · next t j htag hcontent =>
      refine ⟨t, htag, ?_⟩
      split at h
      · next hfirst =>
        split at h
        · next hreadable =>
          obtain ⟨n, hn, h⟩ := Option.map_eq_some_iff.mp h
          cases h
          refine ⟨hn, ?_⟩
          have hgiven : ContentOf tag content members held _ :=
            .given hcontent fun _ => hreadable
          rwa [hfirst, Bool.or_true] at hgiven
        · cases h
      · next hfirst =>
        obtain ⟨n, hn, h⟩ := Option.map_eq_some_iff.mp h
        cases h
        refine ⟨hn, ?_⟩
        have hgiven : ContentOf tag content members held _ :=
          .given hcontent fun h => absurd h hfirst
        rw [Bool.not_eq_true] at hfirst
        rwa [hfirst, Bool.or_false] at hgiven
    · cases h
  · rintro ⟨t, htag, hname, hcontent⟩
    cases hcontent with
    | absent hcontent => simp [tagged?, htag, hcontent, part, hname]
    | given hcontent hreadable =>
      simp only [tagged?, htag, hcontent, part, hname]
      cases hfirst : contentFirst tag content members with
      | false => simp
      | true => simp [hreadable hfirst]

theorem tagged?_array_eq_some_iff {items : List Json} :
    tagged? tag content names ⟨.array items, held⟩ = some (name, c) ↔
      ∃ t j, items = [t, j] ∧ place? names ⟨t, held⟩ = some name ∧ c = some ⟨j, held⟩ := by
  constructor
  · intro h
    match items with
    | [t, j] =>
      obtain ⟨n, hn, h⟩ := Option.map_eq_some_iff.mp h
      cases h
      exact ⟨t, j, rfl, hn, rfl⟩
  · rintro ⟨t, j, rfl, hname, rfl⟩
    exact Option.map_eq_some_iff.mpr ⟨name, hname, rfl⟩

end Document

namespace TaggedType

variable {drops : Bool} {t : TaggedType} {held held' : Bool} {name : String}
  {c : Option Document}

theorem tag_ne_content (t : TaggedType) : t.tag ≠ t.content := by
  cases t <;> decide

/-- Objects are compared by their tag and their content. -/
theorem vary_of_object {members members' : List Member}
    (hd : tagged? t.tag t.content t.names ⟨.object members, held⟩ = some (name, c))
    (htag : ∀ tag, membersNamed t.tag members = [tag] → membersNamed t.tag members' = [tag] ∧
      name? ⟨tag, held'⟩ = name? ⟨tag, held⟩)
    (hcontent : ∀ tag, membersNamed t.tag members = [tag] → name? ⟨tag, held⟩ = some name →
      ContentOf t.tag t.content members held c →
      ∃ c', ContentOf t.tag t.content members' held' c' ∧
        Option.Rel (Varies drops (t.form name)) c c') :
    ∃ c', tagged? t.tag t.content t.names ⟨.object members', held'⟩ = some (name, c') ∧
      Option.Rel (Varies drops (t.form name)) c c' := by
  obtain ⟨tag, hsingle, hname, hgiven⟩ := tagged?_object_eq_some_iff.mp hd
  obtain ⟨htag', hname'⟩ := htag tag hsingle
  obtain ⟨c', hgiven', hrel⟩ := hcontent tag hsingle hname hgiven
  exact ⟨c', tagged?_object_eq_some_iff.mpr ⟨tag, htag', hname'.trans hname, hgiven'⟩, hrel⟩

theorem rel_same {f : Form} (c : Option Document) : Option.Rel (Varies drops f) c c := by
  cases c with
  | none => exact .none
  | some d => exact .some (.same d)

/-- Members beside the tag and the content do not matter. -/
theorem vary_of_insert {before after : List Member} {m : Member}
    (hname : m.name ∉ [t.tag, t.content]) :
    tagged? t.tag t.content t.names ⟨.object (before ++ m :: after), held⟩ =
      tagged? t.tag t.content t.names ⟨.object (before ++ after), held⟩ := by
  rw [List.mem_cons, List.mem_singleton, not_or] at hname
  simp only [tagged?, membersNamed_insert hname.1, membersNamed_insert hname.2,
    contentFirst_insert hname.1 hname.2, part]

/-- The content of a tagged content whose members change places. -/
theorem vary_of_permuted {members members' : List Member} (hperm : members.Perm members')
    (horder : t.Reorders held members members')
    (hreadable : held = true → (Json.object members).isReadable = true)
    (hd : tagged? t.tag t.content t.names ⟨.object members, held⟩ = some (name, c)) :
    ∃ c', tagged? t.tag t.content t.names ⟨.object members', held⟩ = some (name, c') ∧
      Option.Rel (Varies drops (t.form name)) c c' := by
  have hvalues : ∀ name, (membersNamed name members).Perm (membersNamed name members') :=
    fun _ => membersNamed_perm hperm
  refine vary_of_object hd (fun tag htag => ⟨?_, rfl⟩) fun tag htag hname hgiven => ?_
  · exact (htag ▸ hvalues t.tag).singleton_eq.symm
  cases hgiven with
  | absent hnone => exact ⟨none, .absent (hnone ▸ hvalues t.content).nil_eq.symm, .none⟩
  | @given j hone hfirst =>
    have hone' := (hone ▸ hvalues t.content).singleton_eq.symm
    have hj : j ∈ membersNamed t.content members := hone ▸ List.mem_singleton_self j
    cases horder with
    | heldBack hheld =>
      subst hheld
      have hread := Json.isReadable_object_iff.mp (hreadable rfl) _ (mem_membersNamed.mp hj)
      exact ⟨_, .given hone' fun _ => hread, .some (.same _)⟩
    | kept hkept =>
      rw [hkept] at hfirst ⊢
      exact ⟨_, .given hone' hfirst, .some (.same _)⟩
    | moved hmoved =>
      obtain ⟨hread, hwritten⟩ := hmoved j hj
      have htag : tag ∈ membersNamed t.tag members := htag ▸ List.mem_singleton_self tag
      have hwritten := hwritten tag htag name hname
      exact ⟨_, .given hone' fun _ => hread, .some (.heldBack hread hwritten)⟩

/-- The content of a tagged content that is edited inside. -/
theorem vary_of_inContent {before after : List Member} {tag v v' : Json} {other : String}
    (hreadable : held = true → v.isReadable = true)
    (htag : membersNamed t.tag (before ++ after) = [tag]) (hother : name? ⟨tag, held⟩ = some other)
    (hedit : Edit drops (t.form other)
      (held || contentFirst t.tag t.content (before ++ ⟨t.content, v⟩ :: after)) v v')
    (hd : tagged? t.tag t.content t.names ⟨.object (before ++ ⟨t.content, v⟩ :: after), held⟩ =
      some (name, c)) :
    ∃ c', tagged? t.tag t.content t.names ⟨.object (before ++ ⟨t.content, v'⟩ :: after), held⟩ =
        some (name, c') ∧ Option.Rel (Varies drops (t.form name)) c c' := by
  have hinsert : ∀ j : Json, membersNamed t.tag (before ++ ⟨t.content, j⟩ :: after) = [tag] :=
    fun j => (membersNamed_insert t.tag_ne_content.symm).trans htag
  refine vary_of_object hd (fun tag' htag' => ⟨?_, rfl⟩) fun tag' htag' hname hgiven => ?_
  · rw [hinsert, ← htag', hinsert]
  obtain rfl : tag = tag' := List.singleton_injective ((hinsert v).symm.trans htag')
  obtain rfl : other = name := Option.some.inj (hother.symm.trans hname)
  cases hgiven with
  | absent hnone => simp [membersNamed_append, membersNamed_cons_self] at hnone
  | @given j hone hfirst =>
    have hrest : membersNamed t.content (before ++ after) = [] :=
      membersNamed_rest (Nat.le_of_eq (congrArg List.length hone))
    obtain rfl : v = j := List.singleton_injective ((membersNamed_only v hrest).symm.trans hone)
    have hv : (held || contentFirst t.tag t.content (before ++ ⟨t.content, v⟩ :: after)) = true →
        v.isReadable = true := by
      rw [Bool.or_eq_true]
      exact fun h => h.elim hreadable hfirst
    refine ⟨some ⟨v', _⟩, .given (membersNamed_only v' hrest) fun hfirst' => ?_, ?_⟩
    · rw [contentFirst_replace _ _ v' v] at hfirst'
      exact hedit.isReadable (Form.holdsBack_of_held (by rw [hfirst', Bool.or_true]))
        (hfirst hfirst')
    · rw [contentFirst_replace _ _ v' v]
      exact .some (.edited hv hedit)

/-- The content of an edited tagged content. -/
theorem vary_of_edit {j j' : Json} (hreadable : held = true → j.isReadable = true)
    (h : Edit drops (.tagged t) held j j')
    (hd : tagged? t.tag t.content t.names ⟨j, held⟩ = some (name, c)) :
    ∃ c', tagged? t.tag t.content t.names ⟨j', held⟩ = some (name, c') ∧
      Option.Rel (Varies drops (t.form name)) c c' := by
  cases h with
  | permuted _ hperm horder => exact vary_of_permuted hperm (horder t rfl) hreadable hd
  | added before after hknown hname =>
    cases hknown
    exact ⟨c, (vary_of_insert hname).trans hd, rel_same c⟩
  | removed before after hknown hname =>
    cases hknown
    exact ⟨c, (vary_of_insert hname).symm.trans hd, rel_same c⟩
  | @inContent _ _ before tag v v' other after htag hother hedit =>
    refine vary_of_inContent (fun hheld => ?_) htag hother hedit hd
    exact Json.isReadable_object_iff.mp (hreadable hheld) ⟨t.content, v⟩ (by simp)
  | @inSecond _ _ tag v v' other hother hedit =>
    obtain ⟨tag', j, hitems, hname, rfl⟩ := tagged?_array_eq_some_iff.mp hd
    cases hitems
    obtain rfl : other = name := Option.some.inj (hother.symm.trans hname)
    refine ⟨_, tagged?_array_eq_some_iff.mpr ⟨tag, v', rfl, hname, rfl⟩, .some ?_⟩
    refine .edited (fun hheld => ?_) hedit
    exact Json.isReadable_array_iff.mp (hreadable hheld) v (by simp)

/-- The content of a tagged content that is held back or not. -/
theorem vary_of_heldBack {j : Json} (hreadable : j.isReadable = true)
    (h : AsWritten (.tagged t) j)
    (hd : tagged? t.tag t.content t.names ⟨j, held⟩ = some (name, c)) :
    ∃ c', tagged? t.tag t.content t.names ⟨j, held'⟩ = some (name, c') ∧
      Option.Rel (Varies drops (t.form name)) c c' := by
  cases h with
  | tagged htags hcontents hfirsts hseconds =>
    cases j with
    | object members =>
      refine vary_of_object hd (fun tag htag => ⟨htag, ?_⟩) fun tag htag hname hgiven => ?_
      · exact (htags members rfl tag (htag ▸ List.mem_singleton_self tag)).name?_eq held' held
      cases hgiven with
      | absent hnone => exact ⟨none, .absent hnone, .none⟩
      | @given v hone hfirst =>
        have hv : v ∈ membersNamed t.content members := hone ▸ List.mem_singleton_self v
        refine ⟨_, .given hone hfirst, .some ?_⟩
        cases hcf : contentFirst t.tag t.content members with
        | true =>
          rw [Bool.or_true, Bool.or_true]
          exact .same _
        | false =>
          have htag := htag ▸ List.mem_singleton_self tag
          refine .heldBack ?_ (hcontents members rfl hcf tag htag held name hname v hv)
          exact Json.isReadable_object_iff.mp hreadable _ (mem_membersNamed.mp hv)
    | array items =>
      obtain ⟨tag, v, rfl, hname, rfl⟩ := tagged?_array_eq_some_iff.mp hd
      have hname' := ((hfirsts tag v rfl).place?_eq t.names held' held).trans hname
      refine ⟨_, tagged?_array_eq_some_iff.mpr ⟨tag, v, rfl, hname', rfl⟩, .some ?_⟩
      refine .heldBack ?_ (hseconds tag v rfl held name hname)
      exact Json.isReadable_array_iff.mp hreadable v (by simp)
    | _ => cases hd

theorem vary_of_varies {d d' : Document} (h : Varies drops (.tagged t) d d')
    (hd : d.tagged? t.tag t.content t.names = some (name, c)) :
    ∃ c', d'.tagged? t.tag t.content t.names = some (name, c') ∧
      Option.Rel (Varies drops (t.form name)) c c' := by
  cases h with
  | same d => exact ⟨c, hd, rel_same c⟩
  | edited hreadable hedit => exact vary_of_edit hreadable hedit hd
  | heldBack hreadable hwritten => exact vary_of_heldBack hreadable hwritten hd

end TaggedType

/-- A tagged content is read when its content is, under each tag. -/
theorem Stable.tagged {α : Type} {drops : Bool} {t : TaggedType}
    {ofContent : String → Option Document → Option α}
    (h : ∀ name c c' a, Option.Rel (Varies drops (t.form name)) c c' →
      ofContent name c = some a → ofContent name c' = some a) :
    Stable drops (fun d => do
      let (name, content) ← d.tagged? t.tag t.content t.names
      ofContent name content) (.tagged t) := by
  intro d d' a hvaries ha
  obtain ⟨⟨name, c⟩, hd, ha⟩ := Option.bind_eq_some_iff.mp ha
  obtain ⟨c', hd', hrel⟩ := TaggedType.vary_of_varies hvaries hd
  exact Option.bind_eq_some_iff.mpr ⟨(name, c'), hd', h name c c' a hrel ha⟩

/-! ## Tagged records -/

namespace Document

variable {tag name : String} {names : List String} {held : Bool} {rest : Document}

/-- The members of a tagged record without its tag. -/
def untagged (tag : String) (members : List Member) : List Member :=
  members.filter fun m => m.name != tag

theorem taggedRecord?_object_eq_some_iff {members : List Member} :
    taggedRecord? tag names ⟨.object members, held⟩ = some (name, rest) ↔
      (Json.object members).isReadable = true ∧
        ∃ t, membersNamed tag members = [t] ∧ place? names ⟨t, held⟩ = some name ∧
          rest = ⟨.object (untagged tag members), true⟩ := by
  unfold taggedRecord?
  constructor
  · intro h
    split at h
    · next hreadable =>
      refine ⟨hreadable, ?_⟩
      simp only at h
      split at h
      · next t htag =>
        obtain ⟨n, hn, h⟩ := Option.map_eq_some_iff.mp h
        cases h
        exact ⟨t, htag, hn, rfl⟩
      · cases h
    · cases h
  · rintro ⟨hreadable, t, htag, hname, rfl⟩
    rw [if_pos hreadable]
    simp only [htag, part, hname, Option.map_some]
    rfl

theorem taggedRecord?_array_eq_some_iff {items : List Json} :
    taggedRecord? tag names ⟨.array items, held⟩ = some (name, rest) ↔
      (Json.array items).isReadable = true ∧
        ∃ t r, items = t :: r ∧ place? names ⟨t, held⟩ = some name ∧ rest = ⟨.array r, true⟩ := by
  unfold taggedRecord?
  constructor
  · intro h
    split at h
    · next hreadable =>
      refine ⟨hreadable, ?_⟩
      match items with
      | t :: r =>
        obtain ⟨n, hn, h⟩ := Option.map_eq_some_iff.mp h
        cases h
        exact ⟨t, r, rfl, hn, rfl⟩
    · cases h
  · rintro ⟨hreadable, t, r, rfl, hname, rfl⟩
    rw [if_pos hreadable]
    simp only [part, hname, Option.map_some]

theorem isReadable_of_taggedRecord? {d : Document}
    (h : d.taggedRecord? tag names = some (name, rest)) : d.value.isReadable = true := by
  unfold taggedRecord? at h
  split at h
  · next hreadable => exact hreadable
  · cases h

theorem untagged_insert {before after : List Member} {m : Member} (h : m.name ≠ tag) :
    untagged tag (before ++ m :: after) = untagged tag before ++ m :: untagged tag after := by
  simp [untagged, h]

theorem untagged_append (before after : List Member) :
    untagged tag (before ++ after) = untagged tag before ++ untagged tag after :=
  List.filter_append before after

theorem untagged_cons {members : List Member} (j : Json) (h : ∀ m ∈ members, m.name ≠ tag) :
    untagged tag (⟨tag, j⟩ :: members) = members := by
  rw [untagged, List.filter_cons, if_neg (by simp)]
  exact List.filter_eq_self.mpr fun m hm => by simpa using h m hm

theorem membersNamed_tag_cons {members : List Member} (j : Json)
    (h : ∀ m ∈ members, m.name ≠ tag) : membersNamed tag (⟨tag, j⟩ :: members) = [j] := by
  have hnone : membersNamed tag members = [] := by
    rw [membersNamed, List.map_eq_nil_iff, List.filter_eq_nil_iff]
    exact fun m hm => by simpa using h m hm
  rw [membersNamed_cons_self, hnone]

theorem isReadable_untagged {members : List Member}
    (h : (Json.object members).isReadable = true) :
    (Json.object (untagged tag members)).isReadable = true := by
  rw [Json.isReadable_object_iff] at h ⊢
  exact fun m hm => h m (List.mem_filter.mp hm).1

end Document

namespace TaggedRecordType

variable {drops : Bool} {t : TaggedRecordType} {r : RecordType} {held held' : Bool}
  {name : String} {rest : Document}

theorem known_of_lookup (h : t.records.lookup name = some r) : ∀ n ∈ r.known, n ∈ t.known := by
  obtain ⟨before, after, hrecords, -⟩ := List.lookup_eq_some_iff.mp h
  intro n hn
  rw [known, hrecords, List.mem_flatMap]
  exact ⟨(name, r), by simp, hn⟩

/-- Objects are compared by their tag and by the records without it. -/
theorem vary_of_object {members members' : List Member}
    (hd : taggedRecord? t.tag t.names ⟨.object members, held⟩ = some (name, rest))
    (hreadable' : (Json.object members').isReadable = true)
    (htag : ∀ tag, membersNamed t.tag members = [tag] → membersNamed t.tag members' = [tag])
    (hedit : ∀ tag, membersNamed t.tag members = [tag] → place? t.names ⟨tag, held⟩ = some name →
      ∀ r, t.records.lookup name = some r → Edit drops (.record r) true
        (.object (untagged t.tag members)) (.object (untagged t.tag members'))) :
    ∃ rest', taggedRecord? t.tag t.names ⟨.object members', held⟩ = some (name, rest') ∧
      ∀ r, t.records.lookup name = some r → Varies drops (.record r) rest rest' := by
  obtain ⟨hreadable, tag, hsingle, hname, rfl⟩ := taggedRecord?_object_eq_some_iff.mp hd
  refine ⟨_, taggedRecord?_object_eq_some_iff.mpr
    ⟨hreadable', tag, htag tag hsingle, hname, rfl⟩, fun r hr => ?_⟩
  exact .edited (fun _ => isReadable_untagged hreadable) (hedit tag hsingle hname r hr)

/-- The rest of a tagged record that is edited. -/
theorem vary_of_edit {j j' : Json} (h : Edit drops (.taggedRecord t) held j j')
    (hd : taggedRecord? t.tag t.names ⟨j, held⟩ = some (name, rest)) :
    ∃ rest', taggedRecord? t.tag t.names ⟨j', held⟩ = some (name, rest') ∧
      ∀ r, t.records.lookup name = some r → Varies drops (.record r) rest rest' := by
  have hreadable := isReadable_of_taggedRecord? hd
  have hreadable' := h.isReadable rfl hreadable
  cases h with
  | permuted _ hperm =>
    refine vary_of_object hd hreadable' (fun tag htag => ?_) fun _ _ _ r _ => ?_
    · exact (htag ▸ membersNamed_perm hperm).singleton_eq.symm
    · exact .permuted rfl (hperm.filter _) nofun
  | @added _ _ _ before m after hknown hnew =>
    cases hknown
    rw [List.mem_cons, not_or] at hnew
    have hm := Json.isReadable_object_iff.mp hreadable' m (by simp)
    refine vary_of_object hd hreadable' (fun tag htag => ?_) fun _ _ _ r hr => ?_
    · exact (membersNamed_insert hnew.1).trans htag
    · rw [untagged_insert hnew.1, untagged_append]
      exact .added _ _ rfl (fun h => hnew.2 (known_of_lookup hr _ h)) fun _ => hm
  | @removed _ _ _ before m after hknown hold =>
    cases hknown
    rw [List.mem_cons, not_or] at hold
    have hm := Json.isReadable_object_iff.mp hreadable m (by simp)
    refine vary_of_object hd hreadable' (fun tag htag => ?_) fun _ _ _ r hr => ?_
    · exact (membersNamed_insert hold.1).symm.trans htag
    · rw [untagged_insert hold.1, untagged_append]
      exact .removed _ _ rfl (fun h => hold.2 (known_of_lookup hr _ h)) fun _ => hm
  | @inRecord _ record _ tag other members members' hother hrecord hne hne' hedit =>
    refine vary_of_object hd hreadable' (fun tag' htag => ?_) fun tag' htag hname r hr => ?_
    · rw [membersNamed_tag_cons tag hne', ← htag, membersNamed_tag_cons tag hne]
    · obtain rfl := List.singleton_injective ((membersNamed_tag_cons tag hne).symm.trans htag)
      obtain rfl : other = name := Option.some.inj (hother.symm.trans hname)
      obtain rfl : record = r := Option.some.inj (hrecord.symm.trans hr)
      rwa [untagged_cons tag hne, untagged_cons tag hne']
  | @inRest _ record _ tag other items items' hother hrecord hedit =>
    obtain ⟨-, tag', rest, hitems, hname, rfl⟩ := taggedRecord?_array_eq_some_iff.mp hd
    cases hitems
    obtain rfl : other = name := Option.some.inj (hother.symm.trans hname)
    refine ⟨_, taggedRecord?_array_eq_some_iff.mpr ⟨hreadable', tag, items', rfl, hname, rfl⟩, ?_⟩
    intro r hr
    obtain rfl : record = r := Option.some.inj (hrecord.symm.trans hr)
    rw [Json.isReadable_array_cons, Bool.and_eq_true] at hreadable
    exact .edited (fun _ => hreadable.2) hedit

/-- Whether a tagged record is held back matters for its tag only. -/
theorem eq_of_heldBack {j : Json} (h : AsWritten (.taggedRecord t) j)
    (hd : taggedRecord? t.tag t.names ⟨j, held⟩ = some (name, rest)) :
    taggedRecord? t.tag t.names ⟨j, held'⟩ = some (name, rest) := by
  cases h with
  | taggedRecord htags hfirsts =>
    cases j with
    | object members =>
      obtain ⟨hreadable, tag, htag, hname, rfl⟩ := taggedRecord?_object_eq_some_iff.mp hd
      have hplace := htags members rfl tag (htag ▸ List.mem_singleton_self tag)
      exact taggedRecord?_object_eq_some_iff.mpr
        ⟨hreadable, tag, htag, (hplace.place?_eq t.names held' held).trans hname, rfl⟩
    | array items =>
      obtain ⟨hreadable, tag, items, rfl, hname, rfl⟩ := taggedRecord?_array_eq_some_iff.mp hd
      have hplace := hfirsts tag items rfl
      exact taggedRecord?_array_eq_some_iff.mpr
        ⟨hreadable, tag, items, rfl, (hplace.place?_eq t.names held' held).trans hname, rfl⟩
    | _ =>
      unfold taggedRecord? at hd
      split at hd <;> cases hd

theorem vary_of_varies {d d' : Document} (h : Varies drops (.taggedRecord t) d d')
    (hd : d.taggedRecord? t.tag t.names = some (name, rest)) :
    ∃ rest', d'.taggedRecord? t.tag t.names = some (name, rest') ∧
      ∀ r, t.records.lookup name = some r → Varies drops (.record r) rest rest' := by
  cases h with
  | same d => exact ⟨rest, hd, fun r _ => .same rest⟩
  | edited _ hedit => exact vary_of_edit hedit hd
  | heldBack _ hwritten => exact ⟨rest, eq_of_heldBack hwritten hd, fun r _ => .same rest⟩

end TaggedRecordType

/-- A tagged record is read when the records are, under each tag. -/
theorem Stable.taggedRecord {α : Type} {drops : Bool} {t : TaggedRecordType}
    {ofRecord : String → Document → Option α}
    (h : ∀ name d a, ofRecord name d = some a →
      ∃ r, t.records.lookup name = some r ∧ Stable drops (ofRecord name) (.record r)) :
    Stable drops (fun d => do
      let (name, record) ← d.taggedRecord? t.tag t.names
      ofRecord name record) (.taggedRecord t) := by
  intro d d' a hvaries ha
  obtain ⟨⟨name, rest⟩, hd, ha⟩ := Option.bind_eq_some_iff.mp ha
  obtain ⟨r, hr, hstable⟩ := h name rest a ha
  obtain ⟨rest', hd', hrest⟩ := TaggedRecordType.vary_of_varies hvaries hd
  exact Option.bind_eq_some_iff.mpr ⟨(name, rest'), hd', hstable rest rest' a (hrest r hr) ha⟩

end SolrRequest

import SolrRequest.Fragment.Render
import SolrRequest.Proofs.Outcome

/-!
# What is left out

Clauses and predicates that give no text are left out, and the question is what they leave behind.

* A clause that gives no text leaves nothing behind: it may be inserted into a group or removed from
  it, at any depth, and the text of the whole tree stays (`Node.fragment_of_omission`). A group
  gives no text exactly when all its clauses give none (`ClauseGroup.fragment_eq_none_iff`).
* A predicate with the null payload gives no text, but its key is still looked at. When the key is
  one whose fragments name the field, the field is missing in front of the other fragments, as if
  one of them named it (`Criteria.fragment_insert_null`).
-/

namespace SolrRequest

/-! ## Texts of lists -/

theorem Criteria.predicateFragments_eq_mapM (s : Scope) (field : Option Field)
    (l : List Predicate) :
    Criteria.predicateFragments s field l =
      l.mapM fun p => p.fragment s (.ofOperation p.operation?) field := by
  induction l with
  | nil => rfl
  | cons p r ih =>
    rw [Criteria.predicateFragments, Rule.find_eq, List.mapM_cons, ← ih]
    rfl

theorem ClauseGroup.clauseFragments_eq_mapM (s : Scope) (clauses : List Clause) :
    ClauseGroup.clauseFragments s clauses =
      clauses.mapM fun clause => do return (clause.junction, ← clause.node.fragment s true) := by
  induction clauses with
  | nil => rfl
  | cons clause r ih =>
    obtain ⟨junction, node⟩ := clause
    rw [ClauseGroup.clauseFragments, List.mapM_cons, ← ih]
    cases node.fragment s true <;> rfl

/-- The predicate names the field of its criteria in its own text. -/
def Predicate.NamesField (p : Predicate) : Prop :=
  (p.operation?.map (·.namesField)).getD false = true

/-! ## Groups without a text -/

theorem joinClauses_eq_none_iff {parts : List (Junction × Option String)} :
    joinClauses parts = none ↔ ∀ part ∈ parts, part.2 = none := by
  induction parts with
  | nil => simp [joinClauses]
  | cons part r ih =>
    obtain ⟨junction, written⟩ := part
    cases written with
    | none => simp [joinClauses, ih]
    | some text => simp [joinClauses]

/-- A group gives no text exactly when no clause fails and none gives a text. -/
theorem ClauseGroup.fragment_eq_none_iff {s : Scope} {nested : Bool} {g : ClauseGroup} :
    g.fragment s nested = .ok none ↔ ∀ c ∈ g.clauses, c.node.fragment s true = .ok none := by
  obtain ⟨clauses, negating, chained⟩ := g
  rw [ClauseGroup.fragment, ClauseGroup.clauseFragments_eq_mapM]
  constructor
  · intro h c hc
    obtain ⟨parts, hparts, h⟩ := bind_eq_ok_iff.mp h
    have hnone := joinClauses_eq_none_iff.mp (Option.map_eq_none_iff.mp (Except.ok.inj h))
    obtain ⟨part, hmem, hpart⟩ := exists_of_mapM_eq_ok hparts hc
    obtain ⟨written, hwritten, hpart⟩ := bind_eq_ok_iff.mp hpart
    cases hpart
    rw [hwritten]
    exact congrArg Except.ok (hnone _ hmem)
  · intro h
    have hparts : (clauses.mapM fun clause => do
        return (clause.junction, ← clause.node.fragment s true)) =
        .ok (clauses.map fun clause => (clause.junction, none)) := by
      refine mapM_eq_ok_of_forall fun c hc => ?_
      rw [h c hc]
      rfl
    have hnone : joinClauses (clauses.map fun clause => (clause.junction, none)) = none := by
      refine joinClauses_eq_none_iff.mpr fun part hpart => ?_
      obtain ⟨c, -, rfl⟩ := List.mem_map.mp hpart
      rfl
    refine bind_eq_ok_iff.mpr ⟨_, hparts, ?_⟩
    rw [hnone]
    rfl

/-- Whether there is a text does not depend on where the node stands. -/
theorem Node.fragment_eq_none_iff {s : Scope} (nested nested' : Bool) {n : Node} :
    n.fragment s nested = .ok none ↔ n.fragment s nested' = .ok none := by
  cases n with
  | criteria c => rw [Node.fragment, Node.fragment]
  | raw query => rw [Node.fragment, Node.fragment]
  | group g =>
    rw [Node.fragment, Node.fragment, ClauseGroup.fragment_eq_none_iff,
      ClauseGroup.fragment_eq_none_iff]

/-- The node gives no text. -/
def Node.Omitted (s : Scope) (n : Node) : Prop :=
  n.fragment s false = .ok none

instance (s : Scope) (n : Node) : Decidable (n.Omitted s) :=
  match h : n.fragment s false with
  | .ok none => isTrue h
  | .ok (some _) => isFalse fun hn => nomatch h.symm.trans hn
  | .error _ => isFalse fun hn => nomatch h.symm.trans hn

/-! ## Removing and inserting clauses -/

mutual

/-- The node without the clauses that give no text, at any depth. -/
def Node.pruned (s : Scope) : Node → Node
  | .criteria c => .criteria c
  | .raw query => .raw query
  | .group g => .group (g.pruned s)

def ClauseGroup.pruned (s : Scope) : ClauseGroup → ClauseGroup
  | ⟨clauses, negating, chained⟩ => ⟨ClauseGroup.prunedClauses s clauses, negating, chained⟩

def ClauseGroup.prunedClauses (s : Scope) : List Clause → List Clause
  | [] => []
  | ⟨junction, node⟩ :: r =>
    if node.Omitted s then ClauseGroup.prunedClauses s r
    else ⟨junction, node.pruned s⟩ :: ClauseGroup.prunedClauses s r

end

mutual

/-- The second node is the first one with clauses inserted that give no text, into any groups and
at any positions, under any links. -/
inductive Node.Padded (s : Scope) : Node → Node → Prop
  | criteria (c : Criteria) : Node.Padded s (.criteria c) (.criteria c)
  | raw (query : String) : Node.Padded s (.raw query) (.raw query)
  | group {l m : List Clause} (negating chained : Bool) (h : ClausesPadded s l m) :
      Node.Padded s (.group ⟨l, negating, chained⟩) (.group ⟨m, negating, chained⟩)

inductive ClausesPadded (s : Scope) : List Clause → List Clause → Prop
  | nil : ClausesPadded s [] []
  | keep (j : Junction) {n k : Node} {l m : List Clause} (hn : n.Padded s k)
      (h : ClausesPadded s l m) : ClausesPadded s (⟨j, n⟩ :: l) (⟨j, k⟩ :: m)
  | insert (j : Junction) {n : Node} {l m : List Clause} (hn : n.Omitted s)
      (h : ClausesPadded s l m) : ClausesPadded s l (⟨j, n⟩ :: m)

end

/-- The same parts are written, with the same links in front of them. -/
def SameWritten (a b : List (Junction × Option String)) : Prop :=
  a.filter (·.2.isSome) = b.filter (·.2.isSome)

/-- Steps that change nothing can be left out. -/
theorem foldl_filter_of_skipped {α β : Type} {f : β → α → β} {p : α → Bool}
    (h : ∀ b a, p a = false → f b a = b) (l : List α) (b : β) :
    (l.filter p).foldl f b = l.foldl f b := by
  induction l generalizing b with
  | nil => rfl
  | cons a r ih =>
    cases hp : p a with
    | true => rw [List.filter_cons_of_pos hp, List.foldl_cons, List.foldl_cons, ih]
    | false =>
      rw [List.filter_cons_of_neg (Bool.not_eq_true _ ▸ hp), List.foldl_cons, h b a hp, ih]

theorem joinClauses_filter (parts : List (Junction × Option String)) :
    joinClauses (parts.filter (·.2.isSome)) = joinClauses parts := by
  induction parts with
  | nil => rfl
  | cons part r ih =>
    obtain ⟨junction, written⟩ := part
    cases written with
    | none => exact ih
    | some text =>
      refine congrArg some (foldl_filter_of_skipped (fun body clause hnone => ?_) r text)
      obtain ⟨next, written⟩ := clause
      cases written with
      | none => rfl
      | some _ => cases hnone

theorem SameWritten.joinClauses_eq {a b : List (Junction × Option String)} (h : SameWritten a b) :
    joinClauses a = joinClauses b := by
  rw [← joinClauses_filter a, h, joinClauses_filter]

mutual

/-- Inserted clauses do not fail, so also the first error stays. -/
theorem Node.Padded.fragment_eq {s : Scope} {n k : Node} (nested : Bool) :
    n.Padded s k → k.fragment s nested = n.fragment s nested
  | .criteria _ => rfl
  | .raw _ => rfl
  | .group negating chained h => by
    rw [Node.fragment, Node.fragment, ClauseGroup.fragment, ClauseGroup.fragment]
    exact h.agree.map_eq fun a b hab => by rw [hab.joinClauses_eq]

theorem ClausesPadded.agree {s : Scope} {l m : List Clause} :
    ClausesPadded s l m → Agree SameWritten (ClauseGroup.clauseFragments s m)
      (ClauseGroup.clauseFragments s l)
  | .nil => .ok rfl
  | .keep j hn h => by
    rw [ClauseGroup.clauseFragments, ClauseGroup.clauseFragments, hn.fragment_eq true]
    refine .bind_left _ fun text => h.agree.bind fun a b hab => .ok ?_
    unfold SameWritten at hab ⊢
    simp only [List.filter_cons, hab]
  | .insert j hn h => by
    have hparts := h.agree.bind (S := SameWritten)
      (f := fun rest => .ok ((j, none) :: rest)) (g := pure) fun a b hab => .ok hab
    rw [ClauseGroup.clauseFragments, (Node.fragment_eq_none_iff true false).mpr hn]
    rwa [bind_pure] at hparts

end

mutual

theorem Node.padded_pruned (s : Scope) : ∀ n : Node, (n.pruned s).Padded s n
  | .criteria c => .criteria c
  | .raw query => .raw query
  | .group ⟨clauses, negating, chained⟩ =>
    .group negating chained (ClauseGroup.padded_prunedClauses s clauses)

theorem ClauseGroup.padded_prunedClauses (s : Scope) : ∀ clauses : List Clause,
    ClausesPadded s (ClauseGroup.prunedClauses s clauses) clauses
  | [] => .nil
  | ⟨junction, node⟩ :: r => by
    have hrest := ClauseGroup.padded_prunedClauses s r
    rw [ClauseGroup.prunedClauses]
    by_cases h : node.Omitted s
    · rw [if_pos h]
      exact .insert junction h hrest
    · rw [if_neg h]
      exact .keep junction (Node.padded_pruned s node) hrest

end

/-- **Omitted clauses are invisible.** Removing all clauses that give no text, or inserting some,
changes neither the text of a node nor its absence nor the error; and a group gives no text exactly
when all its clauses give none. -/
theorem Node.fragment_of_omission (s : Scope) (nested : Bool) (n : Node) :
    (n.pruned s).fragment s nested = n.fragment s nested ∧
      (∀ k, n.Padded s k → k.fragment s nested = n.fragment s nested) ∧
      ∀ g, n = .group g →
        (n.fragment s nested = .ok none ↔ ∀ c ∈ g.clauses, c.node.Omitted s) := by
  refine ⟨((Node.padded_pruned s n).fragment_eq nested).symm, fun k hk => hk.fragment_eq nested,
    fun g hg => ?_⟩
  subst hg
  rw [Node.fragment, ClauseGroup.fragment_eq_none_iff]
  exact forall₂_congr fun c _ => Node.fragment_eq_none_iff true false

/-- A group between blank texts, which are first, behind a link, and last. -/
theorem blankClauses_invisible :
    let s : Scope := ⟨.default, none⟩
    let blank : Node := .raw " "
    let inner : Node := .group ⟨[⟨.and, .raw "a:1"⟩, ⟨.or, .raw "b:2"⟩], true, false⟩
    let padded : Node := .group ⟨[⟨.or, blank⟩, ⟨.and, .raw "a:1"⟩, ⟨.and, blank⟩,
      ⟨.or, .raw "b:2"⟩, ⟨.or, .group ⟨[⟨.or, blank⟩], true, true⟩⟩], true, false⟩
    inner.Padded s padded ∧ padded.fragment s true = .ok (some "-(a:1 OR b:2)") ∧
      inner.fragment s true ≠ .ok none := by
  intro s blank inner padded
  have hpadded : inner.Padded s padded :=
    .group true false (.insert .or rfl (.keep .and (.raw _) (.insert .and rfl
      (.keep .or (.raw _) (.insert .or rfl .nil)))))
  have h := Node.fragment_of_omission s true inner
  refine ⟨hpadded, (h.2.1 padded hpadded).trans rfl, fun hnone => ?_⟩
  have homitted := (h.2.2 _ rfl).mp hnone ⟨.and, .raw "a:1"⟩ List.mem_cons_self
  cases homitted

/-! ## Predicates with the null payload -/

theorem forM_insert {α ε : Type} {f : α → Except ε Unit} {a : α} (ha : f a = .ok ())
    (before after : List α) : (before ++ a :: after).forM f = (before ++ after).forM f := by
  induction before with
  | nil =>
    show f a >>= (fun _ => after.forM f) = after.forM f
    rw [ha]
    rfl
  | cons b r ih => exact congrArg (f b >>= fun _ => ·) ih

theorem mapM_insert_none {α β ε : Type} {f : α → Except ε (Option β)} {a : α}
    (ha : f a = .ok none) {before after : List α} {l : List (Option β)}
    (h : (before ++ after).mapM f = .ok l) :
    ∃ m, (before ++ a :: after).mapM f = .ok m ∧ m.filterMap id = l.filterMap id := by
  rw [List.mapM_append] at h ⊢
  obtain ⟨first, hfirst, h⟩ := bind_eq_ok_iff.mp h
  obtain ⟨rest, hrest, h⟩ := bind_eq_ok_iff.mp h
  cases h
  refine ⟨first ++ none :: rest, ?_, by simp⟩
  rw [List.mapM_cons, ha, hfirst, hrest]
  rfl

namespace Criteria

variable {c : Criteria} {p : Predicate} {before after : List Predicate}

/-- Some predicate names the field. -/
theorem fieldText_of_names (h : ∃ q ∈ c.predicates, q.NamesField) (name : Option String) :
    c.fieldText name = "" := by
  obtain ⟨q, hq, hnames⟩ := h
  unfold fieldText
  rw [if_pos (List.any_eq_true.mpr ⟨q, hq, by exact hnames⟩)]

theorem fieldText_of_not_names (h : ∀ q ∈ c.predicates, ¬q.NamesField) (name : Option String) :
    c.fieldText name = (name.map (· ++ ":")).getD "" := by
  unfold fieldText
  rw [if_neg]
  · cases name <;> rfl
  · intro hany
    obtain ⟨q, hq, hnames⟩ := List.any_eq_true.mp hany
    exact h q hq hnames

theorem fieldText_none : c.fieldText none = "" := by
  unfold fieldText
  split <;> rfl

/-- A predicate that does not name the field changes nothing in front of the fragments. -/
theorem fieldText_insert (hc : c.predicates = before ++ after) (hp : ¬p.NamesField)
    (name : Option String) :
    fieldText { c with predicates := before ++ p :: after } name = c.fieldText name := by
  by_cases h : ∃ q ∈ c.predicates, q.NamesField
  · rw [fieldText_of_names h]
    obtain ⟨q, hq, hnames⟩ := h
    rw [hc, List.mem_append] at hq
    exact fieldText_of_names
      ⟨q, List.mem_append.mpr (hq.imp_right (List.mem_cons_of_mem p)), hnames⟩ name
  · have hnone : ∀ q ∈ before ++ after, ¬q.NamesField := fun q hq hn => h ⟨q, hc ▸ hq, hn⟩
    have hinserted : ∀ q ∈ before ++ p :: after, ¬q.NamesField := by
      rw [List.forall_mem_append] at hnone ⊢
      exact ⟨hnone.1, List.forall_mem_cons.mpr ⟨hp, hnone.2⟩⟩
    rw [fieldText_of_not_names hinserted, fieldText_of_not_names (hc ▸ hnone)]

theorem assemble_of_ne_nil (hc : c.predicates ≠ []) (name : Option String)
    (fragments : List String) : c.assemble name fragments = if fragments.isEmpty then none else
      some ((if c.negating then "-" else "") ++ c.fieldText name ++
        (chainText fragments ++ boostText c.effectiveBoost)) := by
  have hempty : ¬c.predicates.isEmpty = true := fun h => hc (List.isEmpty_iff.mp h)
  simp only [assemble, if_neg hempty, String.append_assoc]

theorem check_insert_null (hc : c.predicates = before ++ after) (key : Option PredicateKey) :
    check { c with predicates := before ++ ⟨key, .null⟩ :: after } = c.check := by
  have hforM := forM_insert (f := fun p : Predicate => p.payload.check) (a := ⟨key, .null⟩) rfl
    before after
  simp only [check, hc, hforM]

theorem fragment_eq (s : Scope) (c : Criteria) : c.fragment s = do
    c.check
    let name ← s.fieldName? c.field
    let fragments ← c.predicates.mapM fun p => p.fragment s (.ofOperation p.operation?) c.field
    return c.assemble name (fragments.filterMap id) := by
  obtain ⟨field, predicates, negating, boost⟩ := c
  rw [fragment, predicateFragments_eq_mapM]

/-- Only what stands in front of the fragments may differ. -/
theorem fragments_of_insert_null {s : Scope} (key : Option PredicateKey) {text : String}
    (hc : c.predicates = before ++ after) (hne : c.predicates ≠ [])
    (h : c.fragment s = .ok (some text)) :
    let sign := if c.negating then "-" else ""
    ∃ name rest, s.fieldName? c.field = .ok name ∧
      text = sign ++ c.fieldText name ++ rest ∧
      fragment s { c with predicates := before ++ ⟨key, .null⟩ :: after } =
        .ok (some (sign ++
          fieldText { c with predicates := before ++ ⟨key, .null⟩ :: after } name ++ rest)) := by
  rw [fragment_eq] at h
  obtain ⟨_, hcheck, h⟩ := bind_eq_ok_iff.mp h
  obtain ⟨name, hname, h⟩ := bind_eq_ok_iff.mp h
  obtain ⟨fragments, hfragments, h⟩ := bind_eq_ok_iff.mp h
  have htext : c.assemble name (fragments.filterMap id) = some text := Except.ok.inj h
  rw [assemble_of_ne_nil hne] at htext
  rw [hc] at hfragments
  obtain ⟨written, hwritten, hsame⟩ := mapM_insert_none (a := ⟨key, .null⟩) rfl hfragments
  by_cases hempty : (fragments.filterMap id).isEmpty = true
  · rw [if_pos hempty] at htext
    cases htext
  · rw [if_neg hempty] at htext
    cases htext
    refine ⟨name, _, hname, rfl, ?_⟩
    rw [fragment_eq, check_insert_null hc]
    refine bind_eq_ok_iff.mpr ⟨_, hcheck, bind_eq_ok_iff.mpr ⟨name, hname, bind_eq_ok_iff.mpr
      ⟨written, hwritten, congrArg Except.ok ?_⟩⟩⟩
    rw [hsame, assemble_of_ne_nil (by simp), if_neg hempty]
    rfl

/-- The field stays in front, or stays away, unless the inserted key is the only one to name it. -/
theorem fieldText_insert_null {s : Scope} {key : Option PredicateKey} {name : Option String}
    (hc : c.predicates = before ++ after) (hname : s.fieldName? c.field = .ok name)
    (hkept : (Predicate.mk key .null).NamesField →
      c.field = none ∨ ∃ q ∈ c.predicates, q.NamesField) :
    fieldText { c with predicates := before ++ ⟨key, .null⟩ :: after } name =
      c.fieldText name := by
  by_cases hp : (Predicate.mk key .null).NamesField
  · rw [fieldText_of_names ⟨_, List.mem_append_right _ List.mem_cons_self, hp⟩]
    obtain hfield | hnames := hkept hp
    · rw [hfield] at hname
      cases hname
      exact fieldText_none.symm
    · exact (fieldText_of_names hnames name).symm
  · exact fieldText_insert hc hp name

/-- **What a null predicate leaves behind.** Inserted into a chain that has a text, it leaves the
text as it is, unless its key is the only one to name the field: then the field is missing behind
the sign of the chain. -/
theorem fragment_insert_null (s : Scope) (c : Criteria) (key : Option PredicateKey)
    (before after : List Predicate) (text : String) (hc : c.predicates = before ++ after)
    (hne : c.predicates ≠ []) (h : c.fragment s = .ok (some text)) :
    let inserted := fragment s { c with predicates := before ++ ⟨key, .null⟩ :: after }
    let sign := if c.negating then "-" else ""
    let kept := (Predicate.mk key .null).NamesField →
      c.field = none ∨ ∃ q ∈ c.predicates, q.NamesField
    (kept → inserted = .ok (some text)) ∧
      (¬kept → ∃ name rest, s.fieldName? c.field = .ok (some name) ∧
        text = sign ++ name ++ ":" ++ rest ∧ inserted = .ok (some (sign ++ rest))) := by
  intro inserted sign kept
  obtain ⟨name, rest, hname, htext, hinserted⟩ := fragments_of_insert_null key hc hne h
  have hmem : (⟨key, .null⟩ : Predicate) ∈ before ++ ⟨key, .null⟩ :: after :=
    List.mem_append_right _ List.mem_cons_self
  constructor
  · intro hkept
    rw [fieldText_insert_null hc hname hkept, ← htext] at hinserted
    exact hinserted
  · intro hkept
    obtain ⟨hp, hlost⟩ := Classical.not_imp.mp hkept
    obtain ⟨hfield, hnames⟩ := not_or.mp hlost
    obtain ⟨f, hf⟩ := Option.ne_none_iff_exists'.mp hfield
    rw [hf] at hname
    obtain ⟨n, hn, rfl⟩ := map_eq_ok_iff.mp hname
    rw [fieldText_of_names ⟨_, hmem, hp⟩, String.append_empty] at hinserted
    rw [fieldText_of_not_names fun q hq hqn => hnames ⟨q, hq, hqn⟩] at htext
    refine ⟨n, rest, hf ▸ hname, ?_, hinserted⟩
    rw [htext]
    exact congrArg (· ++ rest) (String.append_assoc ..).symm

/-- The text `1` in the field `id`. -/
def ofId : Criteria := (Criteria.on ⟨"id", none⟩).equalTo (.text "1")

/-- A null text leaves nothing behind there. A null area takes the field away, but not the sign. -/
theorem ofId_insert_null :
    let s : Scope := ⟨.default, none⟩
    let excluded : Criteria := { ofId with negating := true }
    fragment s { ofId with predicates := [] ++ ⟨some (.known .fuzzy), .null⟩ :: ofId.predicates } =
        .ok (some "id:1") ∧
      (∃ name rest, s.fieldName? ofId.field = .ok (some name) ∧
        "id:1" = "" ++ name ++ ":" ++ rest ∧
        fragment s
            { ofId with predicates := [] ++ ⟨some (.known .near), .null⟩ :: ofId.predicates } =
          .ok (some ("" ++ rest))) ∧
      ∃ name rest, s.fieldName? excluded.field = .ok (some name) ∧
        "-id:1" = "-" ++ name ++ ":" ++ rest ∧
        fragment s
            { excluded with
              predicates := [] ++ ⟨some (.known .near), .null⟩ :: excluded.predicates } =
          .ok (some ("-" ++ rest)) := by
  intro s excluded
  have h : ∀ key, _ := fun key =>
    fragment_insert_null s ofId key [] ofId.predicates "id:1" rfl (List.cons_ne_nil _ _) rfl
  have hexcluded := fragment_insert_null s excluded (some (.known .near)) [] excluded.predicates
    "-id:1" rfl (List.cons_ne_nil _ _) rfl
  have hlost : ¬((Predicate.mk (some (.known .near)) .null).NamesField →
      ofId.field = none ∨ ∃ q ∈ ofId.predicates, q.NamesField) := by
    intro hkept
    obtain hfield | ⟨q, hq, hnames⟩ := hkept rfl
    · cases hfield
    · cases List.mem_singleton.mp hq
      cases hnames
  refine ⟨(h (some (.known .fuzzy))).1 fun hnames => ?_, (h _).2 hlost, hexcluded.2 hlost⟩
  cases hnames

/-- A null predicate can change the text of its chain. -/
theorem nullArea_leaves_trace :
    let s : Scope := ⟨.default, none⟩
    ofId.fragment s = .ok (some "id:1") ∧
      fragment s { ofId with predicates := ⟨some (.known .near), .null⟩ :: ofId.predicates } =
        .ok (some "1") := by
  constructor <;> rfl

end Criteria

end SolrRequest

import SolrRequest.Proofs.Fragment.Omission
import SolrRequest.Query.Node

/-!
# What joined and negated nodes say

A node says something at the root of a query, and something else as a clause of a group, where a
group that is not negated has parentheses. Joining and negating look at the kind of a node, and not
further into it, and what they make of a node follows from what it says (`Node.Meaning`):

* a chain that is not negated goes on with the link and the clause, without new parentheses; of
  anything else the clause comes first, and the link and the other clause follow;
* a side that is left out takes the link with it, and the error of the left side comes first;
* negating turns the sign of a criteria, and puts `-(…)` around anything else or takes it away.

`Node.meaning_apply` says so for one step, and `Node.meaning_of_steps` for every run of steps: the
meaning of the result is what these rules make of the meaning of the first node. The texts of the
joined nodes stand in the result as they were when they were joined, in order, between links,
parentheses and signs (`Arranged`).
-/

namespace SolrRequest

/-! ## Meanings -/

/-- Two texts with the link between them; one alone stands without it. -/
def linkTexts (junction : Junction) : Option String → Option String → Option String
  | none, right => right
  | some left, none => some left
  | some left, some right => some (left ++ junction.separator ++ right)

/-- The left side is written first, so its error comes first. -/
def linkOutcomes (junction : Junction) (left right : Except Error (Option String)) :
    Except Error (Option String) := do
  let first ← left
  let second ← right
  return linkTexts junction first second

/-- Changes the text, if there is one. -/
def mapText (f : String → String) (outcome : Except Error (Option String)) :
    Except Error (Option String) :=
  outcome.map (Option.map f)

def parenthesize (text : String) : String :=
  "(" ++ text ++ ")"

def negate (text : String) : String :=
  "-" ++ text

/-- Takes the sign away. -/
def dropSign (text : String) : String :=
  String.ofList text.toList.tail

/-- Takes the sign and the parentheses away. -/
def unwrap (text : String) : String :=
  String.ofList text.toList.tail.tail.dropLast

namespace Node

/-- What joining and negating tell nodes apart by. -/
inductive Kind where
  | criteria (negating : Bool)
  | raw
  | group (negating chained : Bool)
deriving Repr, DecidableEq

def kind : Node → Kind
  | .criteria c => .criteria c.negating
  | .raw _ => .raw
  | .group g => .group g.negating g.chained

/-- What a node says at the root of a query, and its kind. -/
structure Meaning where
  kind : Kind
  root : Except Error (Option String)

def meaning (s : Scope) (n : Node) : Meaning :=
  ⟨n.kind, n.fragment s false⟩

namespace Meaning

/-- What a node says inside of a group. -/
def clause (a : Meaning) : Except Error (Option String) :=
  match a.kind with
  | .group false _ => mapText parenthesize a.root
  | _ => a.root

/-- A clause is joined to a node. -/
def join (junction : Junction) (a : Meaning) (right : Except Error (Option String)) : Meaning where
  kind := .group false true
  root := linkOutcomes junction (if a.kind = .group false true then a.root else a.clause) right

/-- A node is negated, or no longer negated. -/
def not (a : Meaning) : Meaning :=
  match a.kind with
  | .criteria false => ⟨.criteria true, mapText negate a.root⟩
  | .criteria true => ⟨.criteria false, mapText dropSign a.root⟩
  | .raw => ⟨.group true false, mapText (negate ∘ parenthesize) a.root⟩
  | .group false chained => ⟨.group true chained, mapText (negate ∘ parenthesize) a.root⟩
  | .group true chained => ⟨.group false chained, mapText unwrap a.root⟩

end Meaning

/-! ## Steps -/

/-- A call that makes a node out of another one. -/
inductive Step where
  | and (other : Node)
  | or (other : Node)
  | not

def Step.apply (n : Node) : Step → Node
  | .and other => n.and other
  | .or other => n.or other
  | .not => n.not

/-- What a step makes of a meaning. -/
def Meaning.apply (s : Scope) (a : Meaning) : Step → Meaning
  | .and other => a.join .and (other.meaning s).clause
  | .or other => a.join .or (other.meaning s).clause
  | .not => a.not

/-! ## Texts of groups -/

theorem mapText_mapText (f g : String → String) (x : Except Error (Option String)) :
    mapText g (mapText f x) = mapText (g ∘ f) x := by
  cases x with
  | error e => rfl
  | ok w => exact congrArg Except.ok (Option.map_map g f w)

theorem mapText_eq_self {f : String → String} (h : ∀ t, f t = t)
    (x : Except Error (Option String)) : mapText f x = x := by
  have hid : f = id := funext h
  subst hid
  cases x with
  | error e => rfl
  | ok w => exact congrArg Except.ok (Option.map_id_apply)

theorem dropSign_negate (text : String) : dropSign (negate text) = text := by
  simp [dropSign, negate]

theorem unwrap_wrapped (text : String) : unwrap (negate (parenthesize text)) = text := by
  simp [unwrap, negate, parenthesize]

theorem joinClauses_concat (parts : List (Junction × Option String)) (junction : Junction)
    (w : Option String) :
    joinClauses (parts ++ [(junction, w)]) = linkTexts junction (joinClauses parts) w := by
  induction parts with
  | nil => cases w <;> rfl
  | cons part r ih =>
    obtain ⟨link, written⟩ := part
    cases written with
    | none => exact ih
    | some text =>
      simp only [List.cons_append, joinClauses, List.foldl_append, List.foldl_cons,
        List.foldl_nil]
      cases w <;> rfl

/-- At the root a group that is not negated is its clauses. -/
theorem fragment_group (s : Scope) (clauses : List Clause) (chained : Bool) :
    (Node.group ⟨clauses, false, chained⟩).fragment s false =
      (ClauseGroup.clauseFragments s clauses).map joinClauses := by
  rw [Node.fragment, ClauseGroup.fragment]
  cases ClauseGroup.clauseFragments s clauses with
  | error e => rfl
  | ok parts => exact congrArg Except.ok Option.map_id_apply

/-- Inside of a group it has parentheses. -/
theorem fragment_parenthesized (s : Scope) (clauses : List Clause) (chained : Bool) :
    (Node.group ⟨clauses, false, chained⟩).fragment s true =
      mapText parenthesize ((Node.group ⟨clauses, false, chained⟩).fragment s false) := by
  rw [fragment_group, Node.fragment, ClauseGroup.fragment]
  cases ClauseGroup.clauseFragments s clauses <;> rfl

/-- A negated group has a sign and parentheses everywhere. -/
theorem fragment_wrapped (s : Scope) (nested : Bool) (clauses : List Clause) (chained : Bool) :
    (Node.group ⟨clauses, true, chained⟩).fragment s nested =
      mapText (negate ∘ parenthesize)
        ((Node.group ⟨clauses, false, chained⟩).fragment s false) := by
  have hmark : enclose nested true = negate ∘ parenthesize := by
    funext body
    show "-" ++ "(" ++ body ++ ")" = _
    simp only [Function.comp_apply, negate, parenthesize, String.append_assoc]
  rw [fragment_group, Node.fragment, ClauseGroup.fragment, hmark]
  cases ClauseGroup.clauseFragments s clauses <;> rfl

/-- What a node says inside of a group follows from what it says at the root, and its kind. -/
theorem fragment_nested (s : Scope) (n : Node) : n.fragment s true = (n.meaning s).clause := by
  cases n with
  | criteria c => rw [Meaning.clause, meaning, Node.fragment]; rfl
  | raw query => rfl
  | group g =>
    obtain ⟨clauses, negating, chained⟩ := g
    cases negating with
    | false => exact fragment_parenthesized s clauses chained
    | true => rw [fragment_wrapped, ← fragment_wrapped s false]; rfl

/-! ## Negation -/

/-- The sign stands in front of everything else that a criteria says. -/
theorem assemble_negated (c : Criteria) (name : Option String) (fragments : List String) :
    Criteria.assemble { c with negating := true } name fragments =
      (Criteria.assemble { c with negating := false } name fragments).map negate := by
  have hfield : Criteria.fieldText { c with negating := true } name =
    Criteria.fieldText { c with negating := false } name := rfl
  have hboost : Criteria.effectiveBoost { c with negating := true } =
    Criteria.effectiveBoost { c with negating := false } := rfl
  simp only [Criteria.assemble, hfield, hboost, if_true, Bool.false_eq_true, if_false]
  split
  · cases name with
    | none => rfl
    | some n => simp [negate, String.append_assoc]
  · split
    · rfl
    · simp [negate, String.append_assoc]

theorem fragment_negated (s : Scope) (c : Criteria) :
    (Node.criteria { c with negating := true }).fragment s false =
      mapText negate ((Node.criteria { c with negating := false }).fragment s false) := by
  have hcheck : Criteria.check { c with negating := true } =
    Criteria.check { c with negating := false } := rfl
  rw [Node.fragment, Node.fragment, Criteria.fragment_eq, Criteria.fragment_eq, hcheck]
  simp only [assemble_negated]
  cases Criteria.check { c with negating := false } with
  | error e => rfl
  | ok _ =>
    cases s.fieldName? c.field with
    | error e => rfl
    | ok name =>
      cases c.predicates.mapM fun p => p.fragment s (.ofOperation p.operation?) c.field <;> rfl

/-- A raw query is the only clause of the group that it becomes. -/
theorem fragment_groupOfRaw (s : Scope) (query : String) :
    (Node.group ⟨[⟨.and, .raw query⟩], false, false⟩).fragment s false =
      (Node.raw query).fragment s false := by
  rw [fragment_group]
  show Except.ok (joinClauses [(.and, if Text.isBlank query then none else some query)]) = _
  rw [Node.fragment]
  split <;> rfl

theorem meaning_not (s : Scope) (n : Node) : n.not.meaning s = (n.meaning s).not := by
  cases n with
  | criteria c =>
    obtain ⟨field, predicates, negating, boost⟩ := c
    have h := fragment_negated s ⟨field, predicates, negating, boost⟩
    cases negating with
    | false => exact congrArg (Meaning.mk _) h
    | true =>
      refine congrArg (Meaning.mk _) ?_
      show _ = mapText dropSign ((Node.criteria _).fragment s false)
      rw [h, mapText_mapText]
      exact (mapText_eq_self dropSign_negate _).symm
  | raw query =>
    refine congrArg (Meaning.mk _) ((fragment_wrapped s false _ _).trans ?_)
    rw [fragment_groupOfRaw]
    rfl
  | group g =>
    obtain ⟨clauses, negating, chained⟩ := g
    cases negating with
    | false => exact congrArg (Meaning.mk _) (fragment_wrapped s false clauses chained)
    | true =>
      refine congrArg (Meaning.mk _) ?_
      show _ = mapText unwrap ((Node.group _).fragment s false)
      rw [fragment_wrapped, mapText_mapText]
      exact (mapText_eq_self unwrap_wrapped _).symm

/-! ## Joining -/

/-- A node that is appended to the clauses of a chain comes behind all of them. -/
theorem clauseFragments_concat (s : Scope) (clauses : List Clause) (junction : Junction)
    (n : Node) : (ClauseGroup.clauseFragments s (clauses ++ [⟨junction, n⟩])).map joinClauses =
      linkOutcomes junction ((ClauseGroup.clauseFragments s clauses).map joinClauses)
        (n.fragment s true) := by
  simp only [ClauseGroup.clauseFragments_eq_mapM, List.mapM_append, List.mapM_cons,
    List.mapM_nil]
  cases clauses.mapM fun clause => do return (clause.junction, ← clause.node.fragment s true) with
  | error e => rfl
  | ok parts =>
    cases n.fragment s true with
    | error e => rfl
    | ok w => exact congrArg Except.ok (joinClauses_concat parts junction w)

/-- A chain of two says what its clauses say. -/
theorem fragment_pair (s : Scope) (junction : Junction) (n m : Node) :
    (Node.group ⟨[⟨.and, n⟩, ⟨junction, m⟩], false, true⟩).fragment s false =
      linkOutcomes junction (n.fragment s true) (m.fragment s true) := by
  have hfirst : (ClauseGroup.clauseFragments s [⟨.and, n⟩]).map joinClauses =
      n.fragment s true := by
    rw [ClauseGroup.clauseFragments]
    cases n.fragment s true with
    | error e => rfl
    | ok w => cases w <;> rfl
  rw [fragment_group, ← hfirst]
  exact clauseFragments_concat s [⟨.and, n⟩] junction m

theorem meaning_join (s : Scope) (junction : Junction) (n m : Node) :
    (n.join junction m).meaning s = (n.meaning s).join junction (m.meaning s).clause := by
  rw [← fragment_nested s m]
  unfold Node.join
  split
  · -- a chain that goes on
    rename_i clauses
    refine congrArg (Meaning.mk _) ?_
    show _ = linkOutcomes junction ((Node.group _).fragment s false) (m.fragment s true)
    rw [fragment_group, fragment_group]
    exact clauseFragments_concat s clauses junction m
  · rename_i hchain
    have hkind : (n.meaning s).kind ≠ .group false true := by
      intro hkind
      cases n with
      | criteria c => cases hkind
      | raw query => cases hkind
      | group g =>
        obtain ⟨clauses, negating, chained⟩ := g
        cases hkind
        exact hchain clauses rfl
    refine congrArg (Meaning.mk _) ?_
    show _ = linkOutcomes junction (if (n.meaning s).kind = .group false true then _ else _) _
    rw [if_neg hkind, ← fragment_nested]
    exact fragment_pair s junction n m

/-- One step makes of the meaning what the rules say. -/
theorem meaning_apply (s : Scope) (n : Node) (step : Step) :
    (step.apply n).meaning s = (n.meaning s).apply s step := by
  cases step with
  | and other => exact meaning_join s .and n other
  | or other => exact meaning_join s .or n other
  | not => exact meaning_not s n

/-- And so does a run of steps. -/
theorem meaning_foldl (s : Scope) (n : Node) (steps : List Step) :
    (steps.foldl Step.apply n).meaning s = steps.foldl (Meaning.apply s) (n.meaning s) := by
  induction steps generalizing n with
  | nil => rfl
  | cons step steps ih => rw [List.foldl_cons, List.foldl_cons, ih, meaning_apply]

end Node

/-! ## Texts that stay -/

/-- Some texts stand in a text as they are, in order, between links, parentheses and signs. -/
inductive Arranged : List String → Option String → Prop
  | none : Arranged [] none
  | alone (text : String) : Arranged [text] (some text)
  | linked (junction : Junction) {l m : List String} {left right : String} :
      Arranged l (some left) → Arranged m (some right) →
        Arranged (l ++ m) (some (left ++ junction.separator ++ right))
  | parenthesized {l : List String} {text : String} :
      Arranged l (some text) → Arranged l (some (parenthesize text))
  | negated {l : List String} {text : String} :
      Arranged l (some text) → Arranged l (some (negate text))

namespace Arranged

variable {l m : List String} {w v : Option String}

theorem of (w : Option String) : Arranged w.toList w := by
  cases w with
  | none => exact .none
  | some text => exact .alone text

theorem link (junction : Junction) (hl : Arranged l w) (hm : Arranged m v) :
    Arranged (l ++ m) (linkTexts junction w v) := by
  cases w with
  | none =>
    cases hl
    exact hm
  | some left =>
    cases v with
    | none =>
      cases hm
      rw [List.append_nil]
      exact hl
    | some right => exact hl.linked junction hm

theorem parenthesize (h : Arranged l w) : Arranged l (w.map SolrRequest.parenthesize) := by
  cases w with
  | none => exact h
  | some text => exact h.parenthesized

theorem negate (h : Arranged l w) : Arranged l (w.map SolrRequest.negate) := by
  cases w with
  | none => exact h
  | some text => exact h.negated

end Arranged

namespace Node

/-- The node without its negation. -/
def positive : Node → Node
  | .criteria c => .criteria { c with negating := false }
  | .raw query => .raw query
  | .group g => .group { g with negating := false }

/-- The texts stand in what the node says without its negation. -/
def Keeps (s : Scope) (l : List String) (n : Node) : Prop :=
  ∀ w, n.positive.fragment s false = .ok w → Arranged l w

theorem mapText_eq_ok {f : String → String} {x : Except Error (Option String)}
    {w : Option String} (h : mapText f x = .ok w) : ∃ v, x = .ok v ∧ w = v.map f := by
  cases x with
  | error e => cases h
  | ok v => exact ⟨v, rfl, (Except.ok.inj h).symm⟩

/-- A negation and parentheses only enclose the texts. -/
theorem Keeps.arranged {s : Scope} {l : List String} {n : Node} (h : n.Keeps s l) (nested : Bool)
    {w : Option String} (hw : n.fragment s nested = .ok w) : Arranged l w := by
  cases n with
  | criteria c =>
    obtain ⟨field, predicates, negating, boost⟩ := c
    have hroot : (Node.criteria ⟨field, predicates, negating, boost⟩).fragment s false = .ok w := by
      rw [← hw, Node.fragment, Node.fragment]
    cases negating with
    | false => exact h w hroot
    | true =>
      rw [fragment_negated s ⟨field, predicates, true, boost⟩] at hroot
      obtain ⟨v, hv, rfl⟩ := mapText_eq_ok hroot
      exact (h v hv).negate
  | raw query => exact h w hw
  | group g =>
    obtain ⟨clauses, negating, chained⟩ := g
    cases negating with
    | true =>
      rw [fragment_wrapped] at hw
      obtain ⟨v, hv, rfl⟩ := mapText_eq_ok hw
      rw [← Option.map_map]
      exact (h v hv).parenthesize.negate
    | false =>
      cases nested with
      | false => exact h w hw
      | true =>
        rw [fragment_parenthesized] at hw
        obtain ⟨v, hv, rfl⟩ := mapText_eq_ok hw
        exact (h v hv).parenthesize

/-- The text that a step adds, if it adds one. -/
def Step.texts (s : Scope) : Step → List String
  | .and other | .or other => ((other.fragment s true).toOption.bind id).toList
  | .not => []

theorem Keeps.not {s : Scope} {l : List String} {n : Node} (h : n.Keeps s l) : n.not.Keeps s l := by
  cases n with
  | criteria c => exact h
  | raw query =>
    intro w hw
    exact h w ((fragment_groupOfRaw s query).symm.trans hw)
  | group g => exact h

theorem Keeps.join {s : Scope} {l : List String} {n : Node} (h : n.Keeps s l)
    (junction : Junction) (other : Node) :
    (n.join junction other).Keeps s (l ++ ((other.fragment s true).toOption.bind id).toList) := by
  intro w hw
  have hpositive : (n.join junction other).positive = n.join junction other := by
    unfold Node.join
    split <;> rfl
  -- the left side is as it is at the root, or as a clause
  obtain ⟨nested, hleft⟩ : ∃ nested, (n.join junction other).fragment s false =
      linkOutcomes junction (n.fragment s nested) (other.fragment s true) := by
    have hroot := congrArg Meaning.root (meaning_join s junction n other)
    rw [Meaning.join, ← fragment_nested, ← fragment_nested] at hroot
    by_cases hkind : (n.meaning s).kind = .group false true
    · exact ⟨false, hroot.trans (by rw [if_pos hkind]; rfl)⟩
    · exact ⟨true, hroot.trans (by rw [if_neg hkind])⟩
  rw [hpositive, hleft] at hw
  obtain ⟨left, hn, hw⟩ := bind_eq_ok_iff.mp hw
  obtain ⟨right, hother, hw⟩ := bind_eq_ok_iff.mp hw
  cases hw
  rw [hother]
  exact (h.arranged nested hn).link junction (.of right)

theorem Keeps.apply {s : Scope} {l : List String} {n : Node} (h : n.Keeps s l) (step : Step) :
    (step.apply n).Keeps s (l ++ step.texts s) := by
  cases step with
  | and other => exact h.join .and other
  | or other => exact h.join .or other
  | not =>
    rw [Step.texts, List.append_nil]
    exact h.not

theorem Keeps.foldl {s : Scope} {l : List String} {n : Node} (h : n.Keeps s l)
    (steps : List Step) :
    (steps.foldl Step.apply n).Keeps s (l ++ steps.flatMap (Step.texts s)) := by
  induction steps generalizing n l with
  | nil =>
    rw [List.flatMap_nil, List.append_nil]
    exact h
  | cons step steps ih =>
    rw [List.flatMap_cons, ← List.append_assoc]
    exact ih (h.apply step)

/-- What a first node and the steps put into the result: the text of the node without its
negation, and those that are joined. -/
def textsOf (s : Scope) (n : Node) (steps : List Step) : List String :=
  ((n.positive.fragment s false).toOption.bind id).toList ++ steps.flatMap (Step.texts s)

theorem keeps_positive (s : Scope) (n : Node) :
    n.Keeps s ((n.positive.fragment s false).toOption.bind id).toList := by
  intro w hw
  rw [hw]
  exact .of w

theorem fragment_not_not (s : Scope) (n : Node) :
    n.not.not.fragment s false = n.fragment s false := by
  cases n with
  | criteria c =>
    obtain ⟨field, predicates, negating, boost⟩ := c
    cases negating <;> rfl
  | raw query => exact fragment_groupOfRaw s query
  | group g =>
    obtain ⟨clauses, negating, chained⟩ := g
    cases negating <;> rfl

/-- **Joining and negating are compositional.** What a run of steps makes of a node is what the
rules make of its meaning; inside of a group the meaning has parentheses where they are needed;
negating twice changes nothing; and the texts that were joined are only enclosed by later steps. -/
theorem meaning_of_steps (s : Scope) (n : Node) (steps : List Step) :
    let made := steps.foldl Step.apply n
    made.meaning s = steps.foldl (Meaning.apply s) (n.meaning s) ∧
      made.fragment s true = (made.meaning s).clause ∧
      made.not.not.fragment s false = made.fragment s false ∧
      ∀ w, made.fragment s false = .ok w → Arranged (textsOf s n steps) w := by
  intro made
  refine ⟨meaning_foldl s n steps, fragment_nested s made, fragment_not_not s made,
    fun w hw => ?_⟩
  exact ((keeps_positive s n).foldl steps).arranged false hw

/-- A chain is negated, goes on behind its parentheses, and is negated twice. -/
theorem negatedChain_goes_on :
    let s : Scope := ⟨.default, none⟩
    let third : Node := .criteria ((Criteria.on ⟨"c", none⟩).equalTo (.text "3"))
    let steps : List Step := [.or (.raw "b:2"), .not, .and third, .not, .not]
    let made := steps.foldl Step.apply (.raw "a:1")
    made.fragment s false = .ok (some "-(a:1 OR b:2) AND c:3") ∧
      Arranged ["a:1", "b:2", "c:3"] (some "-(a:1 OR b:2) AND c:3") := by
  intro s third steps made
  have hmade : made.fragment s false = .ok (some "-(a:1 OR b:2) AND c:3") := rfl
  obtain ⟨-, -, -, harranged⟩ := meaning_of_steps s (.raw "a:1") steps
  exact ⟨hmade, harranged _ hmade⟩

end Node

end SolrRequest

import Mathlib.Data.List.Forall2
import SolrRequest.Fragment.Render
import SolrRequest.Proofs.Outcome
import SolrRequest.Proofs.Query.Rewriting
import SolrRequest.Proofs.Text.Skeleton

/-!
# Rewritten trees have related texts

A tree and its rewriting, each in a scope of its own, have related texts as soon as their leaves
have: fields the same names, values in functions the same texts, payloads related fragments
(`Simulation`). What a relation of texts must allow for is that related texts stay related when the
same is put around them (`Respects`), where what comes in front leaves no backslash waiting. The
renderer puts a character of its own in front of every part, so that nothing in a tree can break
this.

* `Respects.assemble`, `Respects.joinClauses`, `Respects.intercalate`: the steps of the renderer
  from the texts of parts to the text of the whole.
* `Simulation.agree_fragment` and its companions for each kind of tree: the induction.
-/

namespace SolrRequest

open Text

/-! ## Relations that the renderer respects -/

/-- Related texts stay related in the same surroundings. -/
structure Respects (R : String → String → Prop) : Prop where
  refl : ∀ a, R a a
  trans : ∀ {a b c}, R a b → R b c → R a c
  append : ∀ {a b}, R a b → ∀ x, R (a ++ x) (b ++ x)
  behind : ∀ {x a b}, endsEscaped false x.toList = false → R a b → R (x ++ a) (x ++ b)

theorem respects_eq : Respects Eq where
  refl _ := rfl
  trans := Eq.trans
  append h x := congrArg (· ++ x) h
  behind _ h := congrArg _ h

theorem respects_alike : Respects Alike where
  refl := Alike.refl
  trans := Alike.trans
  append := Alike.append
  behind := Alike.behind

/-- Clauses with one link whose texts are related, or both left out. -/
def RelatedParts (R : String → String → Prop) (a b : Junction × Option String) : Prop :=
  a.1 = b.1 ∧ Option.Rel R a.2 b.2

theorem Junction.settles_separator (j : Junction) : Settles j.separator := by
  intro escaped
  cases j <;> cases escaped <;> decide

/-- A field in front of fragments ends with a colon. -/
theorem Criteria.fieldText_cases (c : Criteria) (name : Option String) :
    c.fieldText name = "" ∨ ∃ n, c.fieldText name = n ++ ":" := by
  unfold Criteria.fieldText
  split
  · exact .inl rfl
  · cases name with
    | none => exact .inl rfl
    | some n => exact .inr ⟨n, rfl⟩

/-- What stands in front of the fragments of a criteria leaves no backslash waiting. -/
theorem Criteria.settled_front (c : Criteria) (name : Option String) :
    endsEscaped false ((if c.negating then "-" else "") ++ c.fieldText name).toList = false := by
  have hsign : endsEscaped false (if c.negating then "-" else "").toList = false := by
    cases c.negating <;> decide
  have hcolon : Settles ":" := by
    intro escaped
    cases escaped <;> decide
  obtain h | ⟨n, h⟩ := c.fieldText_cases name
  · rw [h, String.append_empty]
    exact hsign
  · rw [h, ← String.append_assoc]
    exact hcolon.behind _

namespace Respects

variable {R : String → String → Prop} (hR : Respects R)
include hR

/-- Related texts, with a separator between them. -/
theorem join {a b c d x : String} (h : R a b) (hx : Settles x) (k : R c d) :
    R (a ++ x ++ c) (b ++ x ++ d) :=
  hR.trans (hR.append (hR.append h x) c) (hR.behind (hx.behind b) k)

/-- Related texts in parentheses. -/
theorem parenthesize {a b x : String} (hx : endsEscaped false x.toList = false) (h : R a b) :
    R (x ++ a ++ ")") (x ++ b ++ ")") :=
  hR.append (hR.behind hx h) ")"

theorem intercalate {x : String} (hx : Settles x) {l m : List String} (h : List.Forall₂ R l m) :
    R (x.intercalate l) (x.intercalate m) := by
  induction h with
  | nil => exact hR.refl _
  | cons hab hlm ih =>
    cases hlm with
    | nil => simpa only [String.intercalate_singleton] using hab
    | cons hcd hrest =>
      rw [String.intercalate_cons_cons, String.intercalate_cons_cons]
      exact hR.join hab hx ih

theorem chainText {l m : List String} (h : List.Forall₂ R l m) :
    R (SolrRequest.chainText l) (SolrRequest.chainText m) := by
  have hspace : Settles " " := by
    intro escaped
    cases escaped <;> decide
  cases h with
  | nil => exact hR.refl _
  | cons hab hrest =>
    cases hrest with
    | nil => exact hab
    | cons hcd hmore =>
      exact hR.parenthesize (by decide) (hR.intercalate hspace (.cons hab (.cons hcd hmore)))

/-- The induction is on the clauses behind the first one that is written. -/
theorem joinClauses_cons {l m : List (Junction × Option String)}
    (h : List.Forall₂ (RelatedParts R) l m) : ∀ {j k : Junction} {a b : String}, R a b →
      Option.Rel R (SolrRequest.joinClauses ((j, some a) :: l))
        (SolrRequest.joinClauses ((k, some b) :: m)) := by
  induction h with
  | nil => exact fun hab => .some hab
  | @cons x y l m hxy _ ih =>
    intro j k a b hab
    obtain ⟨link, text⟩ := x
    obtain ⟨link', text'⟩ := y
    obtain ⟨rfl, htext⟩ := hxy
    cases htext with
    | none => exact ih (j := j) (k := k) hab
    | some hcd => exact ih (j := j) (k := k) (hR.join hab link.settles_separator hcd)

theorem joinClauses {l m : List (Junction × Option String)}
    (h : List.Forall₂ (RelatedParts R) l m) :
    Option.Rel R (SolrRequest.joinClauses l) (SolrRequest.joinClauses m) := by
  induction h with
  | nil => exact .none
  | @cons x y l m hxy hlm ih =>
    obtain ⟨link, text⟩ := x
    obtain ⟨link', text'⟩ := y
    obtain ⟨rfl, htext⟩ := hxy
    cases htext with
    | none => exact ih
    | some hab => exact hR.joinClauses_cons hlm hab

theorem enclose (nested negating : Bool) {a b : Option String} (h : Option.Rel R a b) :
    Option.Rel R (a.map (SolrRequest.enclose nested negating))
      (b.map (SolrRequest.enclose nested negating)) := by
  cases h with
  | none => exact .none
  | some h =>
    refine .some ?_
    unfold SolrRequest.enclose
    split
    · exact hR.parenthesize (by decide) h
    · split
      · exact hR.parenthesize (by decide) h
      · exact h

theorem orMatchAll {a b : Option String} (h : Option.Rel R a b) :
    R (a.getD matchAll) (b.getD matchAll) := by
  cases h with
  | none => exact hR.refl _
  | some hab => exact hab

/-- Criteria that look the same but for their fragments. -/
theorem assemble {c d : Criteria} (hnegating : d.negating = c.negating)
    (hempty : d.predicates.isEmpty = c.predicates.isEmpty)
    (hfield : ∀ name, d.fieldText name = c.fieldText name)
    (hboost : d.effectiveBoost = c.effectiveBoost) (name : Option String) {l m : List String}
    (h : List.Forall₂ R l m) : Option.Rel R (c.assemble name l) (d.assemble name m) := by
  have hlm : l.isEmpty = m.isEmpty := by
    cases h <;> rfl
  simp only [Criteria.assemble, hempty, hfield, hboost, hnegating, hlm]
  by_cases hp : c.predicates.isEmpty = true
  · rw [if_pos hp, if_pos hp]
    cases name with
    | none => exact .none
    | some n => exact .some (hR.refl _)
  · rw [if_neg hp, if_neg hp]
    by_cases hm : m.isEmpty = true
    · rw [if_pos hm, if_pos hm]
      exact .none
    · rw [if_neg hm, if_neg hm]
      exact .some (hR.append (hR.behind (c.settled_front name) (hR.chainText h)) _)

end Respects

/-! ## What a rewriting keeps -/

theorem Predicate.key_rewrite (w : Rewriting) (p : Predicate) : (p.rewrite w).key = p.key := by
  obtain ⟨key, payload⟩ := p
  cases payload <;> rfl

theorem Predicate.operation?_rewrite (w : Rewriting) (p : Predicate) :
    (p.rewrite w).operation? = p.operation? := by
  rw [Predicate.operation?, Predicate.key_rewrite, Predicate.operation?]

theorem Criteria.isEmpty_rewritePredicates (w : Rewriting) (l : List Predicate) :
    (Criteria.rewritePredicates w l).isEmpty = l.isEmpty := by
  cases l <;> rfl

theorem Criteria.fieldText_rewrite (w : Rewriting) (c : Criteria) (name : Option String) :
    (c.rewrite w).fieldText name = c.fieldText name := by
  obtain ⟨field, predicates, negating, boost⟩ := c
  have hany : (Criteria.rewritePredicates w predicates).any
      (fun p => (p.operation?.map (·.namesField)).getD false) =
      predicates.any (fun p => (p.operation?.map (·.namesField)).getD false) := by
    induction predicates with
    | nil => rfl
    | cons p r ih =>
      simp only [Criteria.rewritePredicates, List.any_cons, Predicate.operation?_rewrite, ih]
  simp only [Criteria.fieldText, Criteria.rewrite, hany]

theorem FunctionQuery.checkArity_rewrite (w : Rewriting) (operation : String)
    (arguments : List Argument) :
    (FunctionQuery.mk operation
      (some (FunctionQuery.rewriteArguments w arguments))).checkArity =
      (FunctionQuery.mk operation (some arguments)).checkArity := by
  simp only [FunctionQuery.checkArity, FunctionQuery.args, Option.getD_some,
    FunctionQuery.rewriteArguments_eq_map, List.length_map]

/-! ## Simulation -/

/-- What leaves and their rewritings have in common in two scopes. -/
structure Simulation (R : String → String → Prop) (w : Rewriting) (s t : Scope) : Prop where
  respects : Respects R
  strict : t.compiler.configuration.strictFunctions = s.compiler.configuration.strictFunctions
  fieldName : ∀ f, t.fieldName (w.field f) = s.fieldName f
  boost : ∀ f, (w.field f).boost = f.boost
  value : ∀ v, t.compiler.conversion.text? (w.value v) = s.compiler.conversion.text? v
  shape : ∀ key p, (w.payload key p).shape = p.shape
  isNull : ∀ key p, (w.payload key p).isNull = p.isNull
  check : ∀ key p, (w.payload key p).check = p.check
  /-- Payloads give related fragments by the rule of their key. -/
  payload : ∀ key field p,
    Agree R (s.plainFragment (.ofOperation (key.bind (·.operation?))) ⟨key, p⟩ field)
      (t.plainFragment (.ofOperation (key.bind (·.operation?))) ⟨key, w.payload key p⟩
        (field.map w.field))

namespace Simulation

variable {R : String → String → Prop} {w : Rewriting} {s t : Scope} (h : Simulation R w s t)
include h

theorem fieldName? (field : Option Field) :
    t.fieldName? (field.map w.field) = s.fieldName? field := by
  cases field with
  | none => rfl
  | some f =>
    simp only [Option.map_some, Scope.fieldName?, h.fieldName]

theorem effectiveBoost (c : Criteria) : (c.rewrite w).effectiveBoost = c.effectiveBoost := by
  obtain ⟨field, predicates, negating, boost⟩ := c
  cases field with
  | none => rfl
  | some f =>
    simp only [Criteria.rewrite, Criteria.effectiveBoost, Option.map_some, Option.bind_some,
      h.boost]

theorem payload_check (p : Predicate) : (p.rewrite w).payload.check = p.payload.check := by
  obtain ⟨key, payload⟩ := p
  cases payload with
  | function f => rfl
  | _ => exact h.check key _

theorem criteria_check (c : Criteria) : (c.rewrite w).check = c.check := by
  obtain ⟨field, predicates, negating, boost⟩ := c
  have hchecks : (Criteria.rewritePredicates w predicates).forM (fun p => p.payload.check) =
      predicates.forM (fun p => p.payload.check) := by
    induction predicates with
    | nil => rfl
    | cons p r ih =>
      simp only [Criteria.rewritePredicates, List.forM, h.payload_check, ih]
  unfold Criteria.check
  simp only [Criteria.rewrite, hchecks]

/-- A predicate without a function. -/
theorem agree_plain (field : Option Field) (key : Option PredicateKey) {p : Payload}
    (hp : p.shape ≠ "function") :
    Agree (Option.Rel R)
      ((Predicate.mk key p).fragment s (.ofOperation (key.bind (·.operation?))) field)
      (((Predicate.mk key p).rewrite w).fragment t
        (.ofOperation (key.bind (·.operation?))) (field.map w.field)) := by
  have plain : ∀ (scope : Scope) (rule : Rule) (field : Option Field) (q : Payload),
      q.shape ≠ "function" → (Predicate.mk key q).fragment scope rule field =
        if q.isNull then pure none else some <$> scope.plainFragment rule ⟨key, q⟩ field := by
    intro scope rule field q hq
    have hfunction : ∀ f, q ≠ .function f := by
      rintro f rfl
      exact hq rfl
    rw [Predicate.fragment]
    exact hfunction
  rw [Predicate.rewrite_eq w key hp, plain s _ field p hp, plain t _ _ _ (by rwa [h.shape]),
    h.isNull]
  split
  · exact .ok .none
  · exact (h.payload key field p).map fun _ _ => .some

omit h

/-! ## Following the tree -/

mutual

/-- The texts of a node and of its rewriting are related. -/
theorem agree_fragment (h : Simulation R w s t) (nested : Bool) : ∀ n : Node,
    Agree (Option.Rel R) (n.fragment s nested) ((n.rewrite w).fragment t nested)
  | .criteria c => by
    rw [Node.rewrite, Node.fragment, Node.fragment]
    exact agree_criteria h c
  | .raw query => by
    rw [Node.rewrite, Node.fragment, Node.fragment]
    refine .ok ?_
    split
    · exact .none
    · exact .some (h.respects.refl _)
  | .group g => by
    rw [Node.rewrite, Node.fragment, Node.fragment]
    exact agree_group h nested g

theorem agree_group (h : Simulation R w s t) (nested : Bool) : ∀ g : ClauseGroup,
    Agree (Option.Rel R) (g.fragment s nested) ((g.rewrite w).fragment t nested)
  | ⟨clauses, negating, chained⟩ => by
    rw [ClauseGroup.rewrite, ClauseGroup.fragment, ClauseGroup.fragment]
    refine (agree_clauses h clauses).bind fun parts parts' hparts => .ok ?_
    exact h.respects.enclose nested negating (h.respects.joinClauses hparts)

theorem agree_clauses (h : Simulation R w s t) : ∀ clauses : List Clause,
    Agree (List.Forall₂ (RelatedParts R)) (ClauseGroup.clauseFragments s clauses)
      (ClauseGroup.clauseFragments t (ClauseGroup.rewriteClauses w clauses))
  | [] => .ok .nil
  | ⟨junction, node⟩ :: r => by
    rw [ClauseGroup.rewriteClauses, Clause.rewrite, ClauseGroup.clauseFragments,
      ClauseGroup.clauseFragments]
    refine (agree_fragment h true node).bind fun text text' htext => ?_
    refine (agree_clauses h r).bind fun rest rest' hrest => .ok ?_
    exact .cons ⟨rfl, htext⟩ hrest

theorem agree_criteria (h : Simulation R w s t) : ∀ c : Criteria,
    Agree (Option.Rel R) (c.fragment s) ((c.rewrite w).fragment t)
  | ⟨field, predicates, negating, boost⟩ => by
    have hcheck := h.criteria_check ⟨field, predicates, negating, boost⟩
    have hboost := h.effectiveBoost ⟨field, predicates, negating, boost⟩
    have hfront := Criteria.fieldText_rewrite w ⟨field, predicates, negating, boost⟩
    simp only [Criteria.rewrite] at hcheck hboost hfront ⊢
    rw [Criteria.fragment, Criteria.fragment, hcheck, h.fieldName?]
    refine .bind_left _ fun _ => .bind_left _ fun name => ?_
    refine (agree_predicates h field predicates).bind fun l m hlm => .ok ?_
    exact h.respects.assemble (c := ⟨field, predicates, negating, boost⟩)
      (d := ⟨field.map w.field, Criteria.rewritePredicates w predicates, negating, boost⟩) rfl
      (Criteria.isEmpty_rewritePredicates w predicates) hfront hboost name
      (List.rel_filterMap (fun _ _ hab => hab) hlm)

theorem agree_predicates (h : Simulation R w s t) (field : Option Field) :
    ∀ predicates : List Predicate, Agree (List.Forall₂ (Option.Rel R))
      (Criteria.predicateFragments s field predicates)
      (Criteria.predicateFragments t (field.map w.field) (Criteria.rewritePredicates w predicates))
  | [] => .ok .nil
  | p :: r => by
    rw [Criteria.rewritePredicates, Criteria.predicateFragments, Criteria.predicateFragments,
      Rule.find_eq, Rule.find_eq, Predicate.operation?_rewrite]
    refine (agree_predicate h field p).bind fun text text' htext => ?_
    refine (agree_predicates h field r).bind fun rest rest' hrest => .ok ?_
    exact .cons htext hrest

theorem agree_predicate (h : Simulation R w s t) (field : Option Field) : ∀ p : Predicate,
    Agree (Option.Rel R) (p.fragment s (.ofOperation p.operation?) field)
      ((p.rewrite w).fragment t (.ofOperation p.operation?) (field.map w.field))
  | ⟨key, .function f⟩ => by
    rw [Predicate.rewrite, Predicate.fragment, Predicate.fragment]
    split
    · refine (agree_body h f).bind fun body body' hbody => .ok (.some ?_)
      exact h.respects.behind (by decide) hbody
    · exact .error _
  | ⟨key, .null⟩ => h.agree_plain field key (by decide)
  | ⟨key, .single v⟩ => h.agree_plain field key (by simp [Payload.shape])
  | ⟨key, .range r⟩ => h.agree_plain field key (by simp [Payload.shape])
  | ⟨key, .geo g⟩ => h.agree_plain field key (by simp [Payload.shape])
  | ⟨key, .fuzzy term x⟩ => h.agree_plain field key (by simp [Payload.shape])
  | ⟨key, .sloppy phrase n⟩ => h.agree_plain field key (by simp [Payload.shape])

/-- The bodies of a function query and of its rewriting are related. -/
theorem agree_body (h : Simulation R w s t) :
    ∀ f : FunctionQuery, Agree R (f.body s) ((f.rewrite w).body t)
  | ⟨operation, none⟩ => by
    rw [FunctionQuery.rewrite, FunctionQuery.body, FunctionQuery.body, h.strict]
    exact .of_eq h.respects.refl rfl
  | ⟨operation, some arguments⟩ => by
    have hparen : Settles "(" := by
      intro escaped
      cases escaped <;> decide
    have hcomma : Settles "," := by
      intro escaped
      cases escaped <;> decide
    have hcall := (agree_arguments h arguments).bind
      (S := R) (f := fun l => .ok (operation ++ "(" ++ ",".intercalate l ++ ")"))
      (g := fun l => .ok (operation ++ "(" ++ ",".intercalate l ++ ")")) fun l m hlm =>
        .ok (h.respects.parenthesize (hparen.behind operation) (h.respects.intercalate hcomma hlm))
    rw [FunctionQuery.rewrite, FunctionQuery.body, FunctionQuery.body, h.strict,
      FunctionQuery.checkArity_rewrite]
    refine .bind_left _ fun _ => ?_
    split
    · exact .bind_left _ fun _ => hcall
    · exact hcall

theorem agree_arguments (h : Simulation R w s t) : ∀ arguments : List Argument,
    Agree (List.Forall₂ R) (FunctionQuery.argumentTexts s arguments)
      (FunctionQuery.argumentTexts t (FunctionQuery.rewriteArguments w arguments))
  | [] => .ok .nil
  | a :: r => by
    rw [FunctionQuery.rewriteArguments, FunctionQuery.argumentTexts, FunctionQuery.argumentTexts]
    refine (agree_argument h a).bind fun text text' htext => ?_
    refine (agree_arguments h r).bind fun rest rest' hrest => .ok ?_
    exact .cons htext hrest

theorem agree_argument (h : Simulation R w s t) :
    ∀ a : Argument, Agree R (a.text s) ((a.rewrite w).text t)
  | .value v => by
    rw [Argument.rewrite, Argument.text, Argument.text, h.value]
    exact .of_eq h.respects.refl rfl
  | .field f => by
    rw [Argument.rewrite, Argument.text, Argument.text, h.fieldName]
    exact .of_eq h.respects.refl rfl
  | .function f => by
    rw [Argument.rewrite, Argument.text, Argument.text]
    exact agree_body h f
  | .criteria n => by
    rw [Argument.rewrite, Argument.text, Argument.text]
    exact (agree_fragment h false n).bind fun _ _ hn => .ok (h.respects.orMatchAll hn)
  | .query ⟨n, _, _, _, _, _, _, _, _, _, _, _, _⟩ => by
    rw [Argument.rewrite, Query.rewrite, Argument.text, Argument.text]
    exact (agree_fragment h false n).bind fun _ _ hn => .ok (h.respects.orMatchAll hn)

end

end Simulation

end SolrRequest

import SolrRequest.Proofs.Fragment.Simulation

/-!
# Literals cannot inject query syntax

Texts compared with a field, and the bounds of ranges, are *literals*. Trees that differ in their
literals only have texts with one skeleton, or fail with one error, or are both left out
(`Node.skeleton_fragment_eq`).

Trees differ in literals only when they become equal once every literal is made empty
(`Node.withoutLiterals`). The literal of any text looks like that of the empty one, so each payload
has a fragment alike to that of the payload without literals (`Scope.agree_plainFragment`), and the
renderer carries this through the tree (`simulation_literalErasure`).
-/

namespace SolrRequest

open Text

/-! ## Making literals empty -/

/-- The empty text in place of any other. -/
def Value.withoutText : Value → Value
  | .text _ => .text ""
  | v => v

/-- Texts in a payload are literals: under no key or an unknown one, under the comparisons with
texts, and as bounds of a range. -/
def holdsLiterals : Option Operation → Payload → Bool
  | none, _ => true
  | some .equals, _ => true
  | some .startsWith, _ => true
  | some .endsWith, _ => true
  | some .contains, _ => true
  | some .fuzzy, _ => true
  | some .sloppy, _ => true
  | some .between, .range _ => true
  | _, _ => false

/-- The payload of a predicate with empty literals. -/
def Payload.withoutLiterals (key : Option PredicateKey) (p : Payload) : Payload :=
  if holdsLiterals (key.bind (·.operation?)) p then p.mapValues Value.withoutText else p

/-- Makes every literal empty. -/
def literalErasure : Rewriting where
  field := id
  value := id
  payload := Payload.withoutLiterals

/-- A tree with empty literals, also in the criteria and queries given to functions. -/
def Node.withoutLiterals (n : Node) : Node :=
  n.rewrite literalErasure

/-! ## Payloads -/

theorem Payload.isNull_withoutLiterals (key : Option PredicateKey) (p : Payload) :
    (p.withoutLiterals key).isNull = p.isNull := by
  have hvalue : ∀ v : Value, v.withoutText.isNull = v.isNull := by
    intro v
    cases v <;> rfl
  unfold withoutLiterals
  split
  · cases p <;> simp [mapValues, isNull, hvalue]
  · rfl

theorem Payload.shape_withoutLiterals (key : Option PredicateKey) (p : Payload) :
    (p.withoutLiterals key).shape = p.shape := by
  unfold withoutLiterals
  split
  · cases p <;> rfl
  · rfl

theorem Payload.check_withoutLiterals (key : Option PredicateKey) (p : Payload) :
    (p.withoutLiterals key).check = p.check := by
  unfold withoutLiterals
  split
  · cases p with
    | fuzzy term similarity => cases similarity <;> rfl
    | _ => rfl
  · rfl

theorem Scope.alike_literal (s : Scope) (v : Value) :
    Alike (s.literal v) (s.literal v.withoutText) := by
  cases v with
  | text t => exact Text.alike_literal t ""
  | _ => exact Alike.refl _

theorem Scope.alike_boundText (s : Scope) (b : Option Value) :
    Alike (s.boundText b) (s.boundText (b.map Value.withoutText)) := by
  cases b with
  | none => exact Alike.refl _
  | some v =>
    cases v with
    | text t => exact Text.alike_literal t ""
    | _ => exact Alike.refl _

theorem settles_to : Settles " TO " := by
  intro escaped
  cases escaped <;> decide

theorem Scope.alike_rangeText (s : Scope) (r : ValueRange) :
    Alike (s.rangeText r)
      (s.rangeText { r with
        lower := r.lower.map Value.withoutText
        upper := r.upper.map Value.withoutText }) := by
  unfold Scope.rangeText
  refine Alike.append ?_ _
  refine respects_alike.join ?_ settles_to (s.alike_boundText r.upper)
  refine Alike.behind ?_ (s.alike_boundText r.lower)
  cases r.includeLower <;> decide

/-- A rule fails on a payload without literals as it fails on the payload. -/
theorem agree_mismatch {R : String → String → Prop} (key : Option PredicateKey) (p : Payload) :
    Agree R (.error (.shapeMismatch (Predicate.mk key p).keyText p.shape) : Except Error String)
      (.error (.shapeMismatch (Predicate.mk key (p.withoutLiterals key)).keyText
        (p.withoutLiterals key).shape)) := by
  rw [Payload.shape_withoutLiterals]
  exact .error _

theorem Scope.agree_singleFragment (s : Scope) {key : Option PredicateKey} {v : Value}
    (h : holdsLiterals (key.bind (·.operation?)) (.single v) = true) :
    Agree Alike (s.singleFragment (.ofOperation (key.bind (·.operation?))) ⟨key, .single v⟩ v)
      (s.singleFragment (.ofOperation (key.bind (·.operation?)))
        ⟨key, .single v.withoutText⟩ v.withoutText) := by
  have hv := s.alike_literal v
  have hstar : endsEscaped false "*".toList = false := by decide
  unfold Scope.singleFragment
  simp only [Predicate.operation?]
  generalize key.bind (·.operation?) = operation at h ⊢
  cases operation with
  | none => exact .ok hv
  | some o =>
    cases o with
    | equals => exact .ok hv
    | startsWith => exact .ok (hv.append "*")
    | endsWith => exact .ok (.behind hstar hv)
    | contains => exact .ok ((Alike.behind hstar hv).append "*")
    | fuzzy => exact .ok (hv.append "~")
    | sloppy => exact .error _
    | between => cases h
    | near => cases h
    | within => cases h
    | expression => cases h
    | function => cases h

/-- The fragment of a payload is alike to that of the payload without literals. -/
theorem Scope.agree_plainFragment (s : Scope) (field : Option Field) (key : Option PredicateKey)
    (payload : Payload) :
    Agree Alike (s.plainFragment (.ofOperation (key.bind (·.operation?))) ⟨key, payload⟩ field)
      (s.plainFragment (.ofOperation (key.bind (·.operation?)))
        ⟨key, payload.withoutLiterals key⟩ field) := by
  by_cases h : holdsLiterals (key.bind (·.operation?)) payload = true
  · have hmismatch := agree_mismatch (R := Alike) key payload
    rw [Payload.withoutLiterals, if_pos h] at hmismatch ⊢
    cases payload with
    | single v => exact s.agree_singleFragment h
    | range r =>
      simp only [Scope.plainFragment, Payload.mapValues]
      split
      · exact .ok (s.alike_rangeText r)
      · exact hmismatch
    | fuzzy term similarity =>
      simp only [Scope.plainFragment, Payload.mapValues]
      split
      · exact .ok (((s.alike_literal term).append "~").append _)
      · exact hmismatch
    | sloppy phrase slop =>
      simp only [Scope.plainFragment, Payload.mapValues]
      split
      · exact .ok (((s.alike_literal phrase).append "~").append _)
      · exact hmismatch
    | null => exact .of_eq Alike.refl rfl
    | geo shape => exact .of_eq Alike.refl rfl
    | function f => exact .of_eq Alike.refl rfl
  · rw [Payload.withoutLiterals, if_neg h]
    exact .of_eq Alike.refl rfl

/-! ## Trees -/

/-- Making literals empty keeps all that the renderer looks at. -/
theorem simulation_literalErasure (s : Scope) : Simulation Alike literalErasure s s where
  respects := respects_alike
  strict := rfl
  fieldName _ := rfl
  boost _ := rfl
  value _ := rfl
  shape := Payload.shape_withoutLiterals
  isNull := Payload.isNull_withoutLiterals
  check := Payload.check_withoutLiterals
  payload key field p := by
    have hfield : field.map literalErasure.field = field := Option.map_id_apply
    rw [hfield]
    exact s.agree_plainFragment field key p

/-- **Literals inject no syntax.** Trees with the same parts but for their literals fail with one
error, are both left out, or have texts with one skeleton. -/
theorem Node.skeleton_fragment_eq (s : Scope) (nested : Bool) {m n : Node}
    (h : m.withoutLiterals = n.withoutLiterals) :
    (m.fragment s nested).map (Option.map skeleton) =
      (n.fragment s nested).map (Option.map skeleton) := by
  have same : ∀ a b : Option String, Option.Rel Alike a b → a.map skeleton = b.map skeleton := by
    intro a b hab
    cases hab with
    | none => rfl
    | some hab => exact congrArg (fun l => some (String.ofList l)) hab.skeleton
  have erased : ∀ k : Node, (k.fragment s nested).map (Option.map skeleton) =
      (k.withoutLiterals.fragment s nested).map (Option.map skeleton) :=
    fun k => ((simulation_literalErasure s).agree_fragment nested k).map_eq same
  calc (m.fragment s nested).map (Option.map skeleton)
      = (m.withoutLiterals.fragment s nested).map (Option.map skeleton) := erased m
    _ = (n.withoutLiterals.fragment s nested).map (Option.map skeleton) := by rw [h]
    _ = (n.fragment s nested).map (Option.map skeleton) := (erased n).symm

/-- A literal behind a raw query whose backslash is still waiting. -/
def behindBackslash (text : String) : Node :=
  .group ⟨[⟨.and, .raw "a\\"⟩, ⟨.or, .criteria ((Criteria.on ⟨"t", none⟩).equalTo (.text text))⟩],
    false, false⟩

/-- The waiting backslash takes the space in front of the link, and nothing of the literal. -/
theorem behindBackslash_harmless :
    (behindBackslash ") OR (*:*").withoutLiterals = (behindBackslash "x").withoutLiterals ∧
    ((behindBackslash ") OR (*:*").fragment ⟨.default, none⟩ false).map (Option.map skeleton) =
      .ok (some " :") :=
  ⟨rfl, (Node.skeleton_fragment_eq ⟨.default, none⟩ false rfl).trans
    (show ((behindBackslash "x").fragment ⟨.default, none⟩ false).map (Option.map skeleton) =
      .ok (some " :") by rfl)⟩

end SolrRequest

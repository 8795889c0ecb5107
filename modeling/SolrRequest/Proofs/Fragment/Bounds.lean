import SolrRequest.Proofs.Fragment.Acceptance
import SolrRequest.Proofs.Outcome

/-!
# Bounds that are checked again

Seven builders of predicates check what they are given (`CheckedCall`). A criteria that was read
from a document has not gone through them, and the renderer makes their checks again, but only in
part. The numbers are checked: a boost, a similarity, a slop and a distance are in range in every
criteria that is written. The texts are not: neither the white space that wildcards refuse nor the
second term that a sloppy phrase asks for is looked at, whatever the texts are
(`Criteria.fragment_bounds`).
-/

namespace SolrRequest

open Number Text

/-! ## Builders that check -/

theorem accepts_checkWildcard (text : String) :
    Accepts (text.toList.any isSpace = false) (checkWildcard text) := by
  have h : Accepts _ (checkWildcard text) := Accepts.ite rfl
  exact h.congr (Bool.not_eq_true _ ▸ .rfl)

theorem accepts_checkPhrase (phrase : String) :
    Accepts ((trim phrase.toList).contains ' ' = true) (checkPhrase phrase) := by
  unfold checkPhrase
  split
  · exact .ok ‹_› ()
  · exact .error ‹_› rfl

/-- A call of a builder of predicates that does not take every argument. -/
inductive CheckedCall where
  | containing (text : String)
  | startingWith (text : String)
  | endingWith (text : String)
  | similarTo (term : String) (similarity : Option Single)
  | sloppyPhrase (phrase : String) (slop : UInt32)
  | near (center : Point) (distance : Distance)
  | within (center : Point) (distance : Distance)

namespace CheckedCall

/-- What the builder makes of a criteria. -/
def run (c : Criteria) : CheckedCall → Except Error Criteria
  | containing text => c.containing text
  | startingWith text => c.startingWith text
  | endingWith text => c.endingWith text
  | similarTo term similarity => c.similarTo term similarity
  | sloppyPhrase phrase slop => c.sloppyPhrase phrase slop
  | near center distance => c.near center distance
  | within center distance => c.within center distance

/-- The predicate that the builder adds. -/
def predicate : CheckedCall → Predicate
  | containing text => .of .contains (.single (.text text))
  | startingWith text => .of .startsWith (.single (.text text))
  | endingWith text => .of .endsWith (.single (.text text))
  | similarTo term similarity => .of .fuzzy (.fuzzy (.text term) similarity)
  | sloppyPhrase phrase slop => .of .sloppy (.sloppy (.text phrase) slop)
  | near center distance => .of .near (.geo (.circle center distance))
  | within center distance => .of .within (.geo (.circle center distance))

/-- The checks that the builder makes. -/
def check : CheckedCall → Except Error Unit
  | containing text | startingWith text | endingWith text => checkWildcard text
  | similarTo _ none => pure ()
  | similarTo _ (some x) => checkSimilarity x
  | sloppyPhrase phrase slop => do
    checkSlop slop
    checkPhrase phrase
  | near _ distance | within _ distance => checkDistance distance

/-- What the builder asks of a text: none of its characters is white space in a wildcard, and a
sloppy phrase has a space between its ends. -/
def TextFits : CheckedCall → Prop
  | containing text | startingWith text | endingWith text => text.toList.any isSpace = false
  | sloppyPhrase phrase _ => (trim phrase.toList).contains ' ' = true
  | similarTo _ _ | near _ _ | within _ _ => True

theorem run_eq (c : Criteria) (call : CheckedCall) :
    call.run c = call.check >>= fun _ => .ok (c.withPredicate call.predicate) := by
  cases call with
  | similarTo term similarity => cases similarity <;> rfl
  | sloppyPhrase phrase slop =>
    show (checkSlop slop >>= fun _ => checkPhrase phrase >>= fun _ => _) =
      (checkSlop slop >>= fun _ => checkPhrase phrase) >>= fun _ => _
    rw [bind_assoc]
    rfl
  | containing | startingWith | endingWith | near | within => rfl

/-- The numbers have to be in range, and the text has to fit. -/
theorem accepts_check (call : CheckedCall) :
    Accepts (call.predicate.payload.Bounded ∧ call.TextFits) call.check := by
  cases call with
  | containing text | startingWith text | endingWith text =>
    exact (accepts_checkWildcard text).congr (true_and _).symm.to_iff
  | similarTo term similarity =>
    refine Accepts.congr ?_ (and_true _).symm.to_iff
    cases similarity with
    | none => exact .always ()
    | some x => exact accepts_checkSimilarity x
  | sloppyPhrase phrase slop =>
    exact (accepts_checkSlop slop).bind fun _ _ => accepts_checkPhrase phrase
  | near center distance | within center distance =>
    exact (accepts_checkDistance distance).congr (and_true _).symm.to_iff

theorem run_eq_ok_iff {c r : Criteria} {call : CheckedCall} :
    call.run c = .ok r ↔
      (call.predicate.payload.Bounded ∧ call.TextFits) ∧ r = c.withPredicate call.predicate := by
  rw [run_eq, bind_eq_ok_iff, ← call.accepts_check.exists_ok_iff]
  constructor
  · rintro ⟨u, hu, h⟩
    exact ⟨⟨u, hu⟩, (Except.ok.inj h).symm⟩
  · rintro ⟨⟨u, hu⟩, rfl⟩
    exact ⟨u, hu, rfl⟩

end CheckedCall

/-! ## Other texts -/

/-- The payload with another text to look for. -/
def Payload.withTexts (f : String → String) : Payload → Payload
  | .single (.text text) => .single (.text (f text))
  | .fuzzy (.text term) similarity => .fuzzy (.text (f term)) similarity
  | .sloppy (.text phrase) slop => .sloppy (.text (f phrase)) slop
  | p => p

def Predicate.withTexts (f : String → String) (p : Predicate) : Predicate :=
  { p with payload := p.payload.withTexts f }

/-- The criteria with other texts to look for. -/
def Criteria.withTexts (f : String → String) (c : Criteria) : Criteria :=
  { c with predicates := c.predicates.map (·.withTexts f) }

theorem Payload.bounded_withTexts (f : String → String) (p : Payload) :
    (p.withTexts f).Bounded ↔ p.Bounded := by
  cases p with
  | null | range | geo | function => exact .rfl
  | single v | sloppy v _ => cases v <;> exact .rfl
  | fuzzy v similarity => cases v <;> cases similarity <;> exact .rfl

theorem Payload.isNull_withTexts (f : String → String) (p : Payload) :
    (p.withTexts f).isNull = p.isNull := by
  cases p with
  | null | range | geo | function => rfl
  | single v | sloppy v _ | fuzzy v _ => cases v <;> rfl

theorem Payload.fits_withTexts (f : String → String) (field : Option Field)
    (operation : Option Operation) (p : Payload) :
    (p.withTexts f).Fits field operation ↔ p.Fits field operation := by
  cases p with
  | null | range | geo | function => exact .rfl
  | single v | sloppy v _ | fuzzy v _ =>
    cases v with
    | text t =>
      cases operation with
      | none => exact .rfl
      | some o => cases o <;> exact .rfl
    | null | bool | integer | float | decimal | dateTime | point | distance | box | custom =>
      exact .rfl

theorem Predicate.wellFormed_iff {strict : Bool} {field : Option Field} {p : Predicate}
    (hp : p.payload.shape ≠ "function") :
    p.WellFormed strict field ↔ p.payload.isNull = true ∨ p.payload.Fits field p.operation? := by
  obtain ⟨key, payload⟩ := p
  rw [Predicate.WellFormed]
  · rfl
  · rintro f rfl
    exact hp rfl

theorem Predicate.WellFormed.withTexts {strict : Bool} {field : Option Field} {p : Predicate}
    (h : p.WellFormed strict field) (f : String → String) :
    (p.withTexts f).WellFormed strict field := by
  obtain ⟨key, payload⟩ := p
  cases payload with
  | null | range | geo | function => exact h
  | single v | fuzzy v _ | sloppy v _ =>
    rw [Predicate.wellFormed_iff (by simp [Payload.shape])] at h
    refine (Predicate.wellFormed_iff ?_).mpr (h.imp ?_ (Payload.fits_withTexts f _ _ _).mpr)
    · cases v <;> simp [Predicate.withTexts, Payload.withTexts, Payload.shape]
    · exact (Payload.isNull_withTexts f _).trans

theorem Criteria.WellFormed.withTexts {strict : Bool} {c : Criteria} (h : c.WellFormed strict)
    (f : String → String) : (c.withTexts f).WellFormed strict := by
  obtain ⟨field, predicates, negating, boost⟩ := c
  obtain ⟨hboost, hbounded, hfield, hpredicates⟩ := h
  refine ⟨hboost, List.forall_mem_map.mpr fun p hp => ?_, hfield, ?_⟩
  · exact (Payload.bounded_withTexts f p.payload).mpr (hbounded p hp)
  · rw [Criteria.predicatesWellFormed_iff] at hpredicates ⊢
    exact List.forall_mem_map.mpr fun p hp => (hpredicates p hp).withTexts f

/-- The checks of numbers come first, so they have been passed. -/
theorem Criteria.inRange_of_fragment {s : Scope} {c : Criteria} {w : Option String}
    (h : c.fragment s = .ok w) :
    (∀ x ∈ c.boost, x.IsMagnitude) ∧ ∀ p ∈ c.predicates, p.payload.Bounded := by
  obtain ⟨field, predicates, negating, boost⟩ := c
  rw [Criteria.fragment] at h
  exact ((Criteria.accepts_check _).holds_of_bind h).1

/-- **Numbers are checked again, and texts are not.** In a criteria that is written the boost is a
finite number not below zero, and the number in every payload is in range. A predicate in it could
have been made by the builder that makes such predicates exactly when its text fits; and the
criteria is written as well with any other texts in place of those that it looks for. -/
theorem Criteria.fragment_bounds {s : Scope} {c : Criteria} {w : Option String}
    (h : c.fragment s = .ok w) :
    (∀ x ∈ c.boost, x.IsMagnitude) ∧
    (∀ p ∈ c.predicates, p.payload.Bounded) ∧
    (∀ call : CheckedCall, call.predicate ∈ c.predicates → ∀ k r : Criteria,
      call.run k = .ok r ↔ call.TextFits ∧ r = k.withPredicate call.predicate) ∧
    ∀ f : String → String, ∃ w', (c.withTexts f).fragment s = .ok w' := by
  obtain ⟨hboost, hbounded⟩ := inRange_of_fragment h
  refine ⟨hboost, hbounded, fun call hcall k r => ?_, fun f => ?_⟩
  · rw [CheckedCall.run_eq_ok_iff, and_iff_right (hbounded _ hcall)]
  · have hwell := (h ▸ c.accepts_fragment s).holds
    exact ((c.withTexts f).accepts_fragment s).exists_ok_iff.mpr (hwell.withTexts f)

namespace Criteria

/-- Texts that start with `ab`, or hold the one term `cd` close to itself, as a document may ask for
them. -/
def ofTerms : Criteria :=
  { on ⟨"title", none⟩ with predicates :=
    [.of .startsWith (.single (.text "ab")), .of .sloppy (.sloppy (.text "cd") 2)] }

/-- Only the first of its predicates could have been built. -/
theorem ofTerms_bounds :
    let s : Scope := ⟨.default, none⟩
    let title : Criteria := on ⟨"title", none⟩
    ofTerms.fragment s = .ok (some "title:(ab* cd~2)") ∧
      (∃ r, title.startingWith "ab" = .ok r) ∧ (∀ r, title.sloppyPhrase "cd" 2 ≠ .ok r) ∧
      ∃ w, (ofTerms.withTexts fun _ => "a b").fragment s = .ok w := by
  intro s title
  have hwritten : ofTerms.fragment s = .ok (some "title:(ab* cd~2)") := rfl
  obtain ⟨-, -, hcalls, htexts⟩ := fragment_bounds hwritten
  have hstart := hcalls (.startingWith "ab") List.mem_cons_self title
  have hphrase := hcalls (.sloppyPhrase "cd" 2) (List.mem_cons_of_mem _ List.mem_cons_self) title
  have hfits : ¬(CheckedCall.sloppyPhrase "cd" 2).TextFits := by
    unfold CheckedCall.TextFits
    decide
  exact ⟨hwritten, ⟨_, (hstart _).mpr ⟨rfl, rfl⟩⟩, fun r hr => hfits ((hphrase r).mp hr).1,
    htexts _⟩

/-- A document may ask for texts that start with two terms, which the builder refuses. -/
theorem spacedStart_written :
    let s : Scope := ⟨.default, none⟩
    let title : Criteria := on ⟨"title", none⟩
    fragment s { title with predicates := [.of .startsWith (.single (.text "a b"))] } =
        .ok (some "title:\"a\\ b\"*") ∧
      title.startingWith "a b" = .error (.spacedWildcard "a b") := by
  constructor <;> rfl

end Criteria

end SolrRequest

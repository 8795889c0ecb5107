import SolrRequest.Proofs.Fragment.Bounds
import SolrRequest.Proofs.Fragment.Omission
import SolrRequest.Proofs.Number.Plain
import SolrRequest.Proofs.Text.Prefix

/-!
# Boosts in query texts

A criteria with a boost ends in a caret and the text of the boost. This text is a plain numeral when
the boost is finite and has no sign, and in no other case (`Criteria.fragment_boosted`). A boost
comes to the criteria in two ways, and only one of them is guarded: one of its own is finite, and
has a sign only when it is the negative zero; one that is taken from the field may be any number.
-/

namespace SolrRequest

open Number Text

/-! ## Boosts at the end of a text -/

/-- The text ends in a caret and a plain numeral. -/
def EndsInPlainBoost (text : String) : Prop :=
  ∃ front numeral, text = front ++ "^" ++ numeral ∧ IsPlainNumeral numeral

theorem endsInPlainBoost_iff (front : String) (x : Single) :
    EndsInPlainBoost (front ++ "^" ++ x.text) ↔ x.isFinite = true ∧ x.negative = false := by
  rw [← x.isPlainNumeral_text_iff]
  refine ⟨?_, fun h => ⟨front, _, rfl, h⟩⟩
  rintro ⟨other, numeral, h, hplain⟩
  have hlist : front.toList ++ '^' :: x.text.toList = other.toList ++ '^' :: numeral.toList := by
    simpa using congrArg String.toList h
  have hnumber : '^' ∉ x.text.toList := fun h => absurd (Floating.mem_text h) (by decide)
  have hnumeral : '^' ∉ numeral.toList := fun h => absurd (hplain.mem h) (by decide)
  have hsame := eq_of_last hnumber hnumeral hlist
  rwa [String.toList_inj.mp hsame]

/-! ## Boosts of fields -/

/-- The criteria with a boost of its field, if there is one. -/
def Criteria.withFieldBoost (x : Single) (c : Criteria) : Criteria :=
  { c with field := c.field.map (·.withBoost x) }

/-- The renderer does not look at the boost of a field. -/
theorem Criteria.WellFormed.withFieldBoost {strict : Bool} {c : Criteria}
    (h : c.WellFormed strict) (x : Single) : (c.withFieldBoost x).WellFormed strict := by
  obtain ⟨field, predicates, negating, boost⟩ := c
  obtain ⟨hboost, hbounded, hfield, hpredicates⟩ := h
  cases field with
  | none => exact ⟨hboost, hbounded, hfield, hpredicates⟩
  | some f =>
    refine ⟨hboost, hbounded, forall_mem_some_iff.mpr (hfield f rfl), ?_⟩
    rw [Criteria.predicatesWellFormed_iff] at hpredicates ⊢
    intro p hp
    have hwell := hpredicates p hp
    obtain ⟨key, payload⟩ := p
    cases payload <;> exact hwell

/-! ## Texts of boosted criteria -/

namespace Criteria

variable {s : Scope} {c : Criteria} {text : String} {x : Single}

theorem assemble_boosted {name : Option String} {fragments : List String}
    (h : c.assemble name fragments = some text) (hx : c.effectiveBoost = some x) :
    ∃ front, text = front ++ "^" ++ x.text := by
  have hboost : ∀ front : String, front ++ boostText c.effectiveBoost = front ++ "^" ++ x.text := by
    intro front
    rw [hx, boostText, String.append_assoc]
  unfold assemble at h
  dsimp only at h
  split at h
  · obtain ⟨n, -, rfl⟩ := Option.map_eq_some_iff.mp h
    exact ⟨_, hboost _⟩
  · split at h
    · cases h
    · cases h
      exact ⟨_, hboost _⟩

theorem fragment_ends (h : c.fragment s = .ok (some text)) (hx : c.effectiveBoost = some x) :
    ∃ front, text = front ++ "^" ++ x.text := by
  rw [fragment_eq] at h
  obtain ⟨-, -, h⟩ := bind_eq_ok_iff.mp h
  obtain ⟨name, -, h⟩ := bind_eq_ok_iff.mp h
  obtain ⟨fragments, -, h⟩ := bind_eq_ok_iff.mp h
  exact assemble_boosted (Except.ok.inj h) hx

theorem sign_of_isMagnitude {x : Single} (h : x.IsMagnitude) :
    x.negative = false ∨ x.text = "-0.0" := by
  cases hnegative : x.negative with
  | false => exact .inl rfl
  | true => exact .inr (Floating.text_of_negativeZero h.1 hnegative (h.isZero hnegative))

/-- **Where boosts are plain numerals.** The text of a boosted criteria ends in its boost, behind
the last caret. It is a plain numeral exactly when the boost is finite and has no sign. That is true
of a boost of its own, but for the negative zero; the boost of a field is not looked at. -/
theorem fragment_boosted (h : c.fragment s = .ok (some text)) (hx : c.effectiveBoost = some x) :
    (∃ front, text = front ++ "^" ++ x.text) ∧
      (EndsInPlainBoost text ↔ x.isFinite = true ∧ x.negative = false) ∧
      (c.boost = some x → EndsInPlainBoost text ∨ x.text = "-0.0") ∧
      ∀ y, ∃ w, (c.withFieldBoost y).fragment s = .ok w := by
  obtain ⟨front, rfl⟩ := fragment_ends h hx
  have hplain := endsInPlainBoost_iff front x
  refine ⟨⟨front, rfl⟩, hplain, fun hown => ?_, fun y => ?_⟩
  · have hmagnitude := (inRange_of_fragment h).1 x hown
    exact (sign_of_isMagnitude hmagnitude).imp_left fun hsign => hplain.mpr ⟨hmagnitude.1, hsign⟩
  · have hwell := (h ▸ c.accepts_fragment s).holds
    exact ((c.withFieldBoost y).accepts_fragment s).exists_ok_iff.mpr (hwell.withFieldBoost y)

/-- The text `1` in the field `id`, three times as important as elsewhere, and here by one half. -/
def ofHalf : Criteria :=
  { (on ⟨"id", some (.ofNat 3)⟩).equalTo (.text "1") with boost := some (.ofRatio false 1 2) }

/-- The boost of its own counts, whatever that of the field. -/
theorem ofHalf_boosted :
    let s : Scope := ⟨.default, none⟩
    ofHalf.fragment s = .ok (some "id:1^0.5") ∧ EndsInPlainBoost "id:1^0.5" ∧
      ∃ w, (ofHalf.withFieldBoost (.ofInt (-1))).fragment s = .ok w := by
  intro s
  have hhalf : (Floating.ofRatio false 1 2 : Single).text = "0.5" := by decide +kernel
  have hwritten : ofHalf.fragment s = .ok (some "id:1^0.5") := by
    have h : ofHalf.fragment s =
        .ok (some ("id:1" ++ ("^" ++ (Floating.ofRatio false 1 2 : Single).text))) := rfl
    rw [h, hhalf]
    rfl
  obtain ⟨-, hplain, -, hfield⟩ := fragment_boosted hwritten rfl
  exact ⟨hwritten, hplain.mpr (by decide), hfield _⟩

/-- A field may have a negative boost. -/
theorem negativeFieldBoost_written :
    let c : Criteria := (on ⟨"id", some (.ofInt (-1))⟩).equalTo (.text "1")
    c.fragment ⟨.default, none⟩ = .ok (some "id:1^-1.0") ∧ ¬EndsInPlainBoost "id:1^-1.0" := by
  have hone : (Floating.ofInt (-1) : Single).text = "-1.0" := by decide +kernel
  have hends := endsInPlainBoost_iff "id:1" (.ofInt (-1))
  rw [hone] at hends
  constructor
  · have h : ((on ⟨"id", some (.ofInt (-1))⟩).equalTo (.text "1")).fragment ⟨.default, none⟩ =
        .ok (some ("id:1" ++ ("^" ++ (Floating.ofInt (-1) : Single).text))) := rfl
    rw [h, hone]
    rfl
  · exact fun hplain => absurd (hends.mp hplain).2 (by decide)

end Criteria

end SolrRequest

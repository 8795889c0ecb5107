import SolrRequest.Fragment.Render
import SolrRequest.Proofs.Text.Literal

/-!
# Ranges in query texts

A range is written in brackets, as two literals with the word `TO` between spaces. Neither a bare
space nor a bare bracket can stand in a literal, whatever its text is, so the two literals can be
told from what is around them (`Scope.rangeText_eq_iff`). An open side is written as an asterisk,
and so is the text `*`. Ranges without that text have one fragment exactly when they are the same,
where a bound of null is an open side (`ValueRange.fragment_eq_iff`).
-/

namespace SolrRequest

open Text

/-! ## Bounds -/

/-- A bound that is missing, null, or a text other than the asterisk. -/
inductive IsTextBound : Option Value → Prop where
  | missing : IsTextBound none
  | null : IsTextBound (some .null)
  | text {t : String} (h : t ≠ "*") : IsTextBound (some (.text t))

/-- The text whose literal is written for a bound. -/
def boundWord : Option Value → String
  | some (.text t) => t
  | _ => "*"

/-- A wildcard is its own literal. -/
theorem literal_wildcard : literal "*" = "*" := by decide

theorem Scope.boundText_eq_literal (s : Scope) {b : Option Value} (h : IsTextBound b) :
    s.boundText b = Text.literal (boundWord b) := by
  cases h with
  | missing | null => exact literal_wildcard.symm
  | text => rfl

/-- Only null is the same as no bound. -/
theorem boundWord_eq_iff {b c : Option Value} (hb : IsTextBound b) (hc : IsTextBound c) :
    boundWord b = boundWord c ↔ b.bind Criteria.bound = c.bind Criteria.bound := by
  cases hb with
  | missing | null =>
    cases hc with
    | missing | null => exact iff_of_true rfl rfl
    | text ht => exact iff_of_false ht.symm nofun
  | text ht =>
    cases hc with
    | missing | null => exact iff_of_false ht nofun
    | text =>
      show _ ↔ some (Value.text _) = some (Value.text _)
      rw [Option.some.injEq, Value.text.injEq]
      rfl

namespace ValueRange

/-- Every bound is a text, other than the asterisk, or open. -/
def HasTextBounds (r : ValueRange) : Prop :=
  IsTextBound r.lower ∧ IsTextBound r.upper

/-! ## Brackets -/

def opening (r : ValueRange) : Char :=
  if r.includeLower then '[' else '\x7b'

def closing (r : ValueRange) : Char :=
  if r.includeUpper then ']' else '\x7d'

theorem opening_eq_iff {r t : ValueRange} :
    r.opening = t.opening ↔ r.includeLower = t.includeLower := by
  unfold opening
  cases r.includeLower <;> cases t.includeLower <;> decide

theorem closing_eq_iff {r t : ValueRange} :
    r.closing = t.closing ↔ r.includeUpper = t.includeUpper := by
  unfold closing
  cases r.includeUpper <;> cases t.includeUpper <;> decide

/-- A literal ends in front of the bracket behind a range. -/
theorem endsLiteral_closing (r : ValueRange) : EndsLiteral [r.closing] := by
  unfold closing
  split <;> exact endsLiteral_cons (by decide) (by decide) (by decide) []

end ValueRange

/-! ## The text of a range -/

/-- What stands between the bounds of a range. -/
def towards (x : List Char) : List Char :=
  ' ' :: 'T' :: 'O' :: ' ' :: x

theorem endsLiteral_towards (x : List Char) : EndsLiteral (towards x) :=
  endsLiteral_cons (by decide) (by decide) (by decide) _

theorem towards_inj {x y : List Char} (h : towards x = towards y) : x = y :=
  (List.append_right_inj [' ', 'T', 'O', ' ']).mp h

theorem Scope.toList_rangeText (s : Scope) (r : ValueRange) :
    (s.rangeText r).toList = r.opening :: ((s.boundText r.lower).toList ++
      towards ((s.boundText r.upper).toList ++ [r.closing])) := by
  have hopening : (if r.includeLower then "[" else "\x7b").toList = [r.opening] := by
    unfold ValueRange.opening
    split <;> rfl
  have hclosing : (if r.includeUpper then "]" else "\x7d").toList = [r.closing] := by
    unfold ValueRange.closing
    split <;> rfl
  simp only [Scope.rangeText, String.toList_append, hopening, hclosing, towards]
  simp only [List.append_assoc, List.cons_append, List.nil_append]
  rfl

/-- The text of a range falls apart into its brackets and the literals of its bounds in one way
only. -/
theorem Scope.rangeText_eq_iff {s s' : Scope} {r t : ValueRange} (hr : r.HasTextBounds)
    (ht : t.HasTextBounds) :
    s.rangeText r = s'.rangeText t ↔
      (r.includeLower = t.includeLower ∧ r.includeUpper = t.includeUpper) ∧
        boundWord r.lower = boundWord t.lower ∧ boundWord r.upper = boundWord t.upper := by
  rw [← String.toList_inj, toList_rangeText, toList_rangeText, s.boundText_eq_literal hr.1,
    s.boundText_eq_literal hr.2, s'.boundText_eq_literal ht.1, s'.boundText_eq_literal ht.2]
  constructor
  · intro h
    obtain ⟨hopening, hbounds⟩ := List.cons.inj h
    obtain ⟨hlower, hrest⟩ :=
      literal_append_inj (endsLiteral_towards _) (endsLiteral_towards _) hbounds
    obtain ⟨hupper, hclosing⟩ :=
      literal_append_inj r.endsLiteral_closing t.endsLiteral_closing (towards_inj hrest)
    exact ⟨⟨ValueRange.opening_eq_iff.mp hopening,
      ValueRange.closing_eq_iff.mp (List.singleton_inj.mp hclosing)⟩, hlower, hupper⟩
  · rintro ⟨⟨hopening, hclosing⟩, hlower, hupper⟩
    rw [ValueRange.opening_eq_iff.mpr hopening, ValueRange.closing_eq_iff.mpr hclosing, hlower,
      hupper]

/-! ## Fragments -/

/-- What is written for a predicate, by the first rule that accepts it. -/
def Predicate.written (s : Scope) (field : Option Field) (p : Predicate) :
    Except Error (Option String) := do
  p.fragment s (← Rule.find p) field

theorem Predicate.written_between (s : Scope) (field : Option Field) (r : ValueRange) :
    (Predicate.of .between (.range r)).written s field = .ok (some (s.rangeText r)) := by
  rw [written, Rule.find_eq]
  rfl

/-- **A range can be told from its fragment.** Whatever compilers write two ranges, each bound of
which is open or a text other than the asterisk, their fragments are equal exactly when the ranges
include the same bounds and have the same bounds, null being none. -/
theorem ValueRange.fragment_eq_iff {r t : ValueRange} (hr : r.HasTextBounds)
    (ht : t.HasTextBounds) (s s' : Scope) (field field' : Option Field) :
    (Predicate.of .between (.range r)).written s field =
        (Predicate.of .between (.range t)).written s' field' ↔
      (r.includeLower = t.includeLower ∧ r.includeUpper = t.includeUpper) ∧
        r.lower.bind Criteria.bound = t.lower.bind Criteria.bound ∧
        r.upper.bind Criteria.bound = t.upper.bind Criteria.bound := by
  rw [Predicate.written_between, Predicate.written_between, Except.ok.injEq, Option.some.injEq,
    Scope.rangeText_eq_iff hr ht, boundWord_eq_iff hr.1 ht.1, boundWord_eq_iff hr.2 ht.2]

/-- From a text that reads like a range, up to some bound. -/
def fromSpelledRange (upper : Option Value) : ValueRange :=
  ⟨some (.text "a TO b]"), upper, true, false⟩

/-- A side that is open is told from one that ends at the empty text. -/
theorem fromSpelledRange_told :
    let missing := fromSpelledRange none
    let null := fromSpelledRange (some .null)
    let empty := fromSpelledRange (some (.text ""))
    let written := fun r : ValueRange =>
      (Predicate.of .between (.range r)).written ⟨.default, none⟩ none
    (missing.HasTextBounds ∧ null.HasTextBounds ∧ empty.HasTextBounds) ∧
      written missing = .ok (some "[\"a\\ TO\\ b\\]\" TO *\x7d") ∧
      written missing = written null ∧ written missing ≠ written empty := by
  intro missing null empty written
  have hlower : IsTextBound (some (.text "a TO b]")) := .text (by decide)
  have hmissing : missing.HasTextBounds := ⟨hlower, .missing⟩
  have hnull : null.HasTextBounds := ⟨hlower, .null⟩
  have hempty : empty.HasTextBounds := ⟨hlower, .text (by decide)⟩
  refine ⟨⟨hmissing, hnull, hempty⟩, rfl, ?_, ?_⟩
  · exact (ValueRange.fragment_eq_iff hmissing hnull _ _ _ _).mpr ⟨⟨rfl, rfl⟩, rfl, rfl⟩
  · intro h
    obtain ⟨-, -, hupper⟩ := (ValueRange.fragment_eq_iff hmissing hempty _ _ _ _).mp h
    cases hupper

end SolrRequest

import SolrRequest.Text.Escape

/-!
# Reading literals back

`readLiteral` reads a literal up to the first bare character of the query syntax. A literal is read
back as the text it was written for, together with whatever follows it (`readLiteral_literal`), so a
literal in front of a bare character is told apart from every other one (`literal_append_inj`).
-/

namespace SolrRequest.Text

/-- Reads a literal, and gives what follows it. The quotes around a literal are dropped, as is the
backslash of each pair; any other bare character that needs an escape ends the literal. -/
def readLiteral : List Char → List Char × List Char
  | [] => ([], [])
  | '\\' :: c :: r => (c :: (readLiteral r).1, (readLiteral r).2)
  | c :: r =>
    if c = '"' then readLiteral r
    else if needsLiteralEscape c then ([], c :: r)
    else (c :: (readLiteral r).1, (readLiteral r).2)

/-- What may stand after a literal: nothing, or a bare character of the query syntax. -/
def EndsLiteral (s : List Char) : Prop :=
  ∀ c ∈ s.head?, needsLiteralEscape c = true ∧ c ≠ '"' ∧ c ≠ '\\'

theorem endsLiteral_cons {c : Char} (hc : needsLiteralEscape c = true) (hq : c ≠ '"')
    (hb : c ≠ '\\') (r : List Char) : EndsLiteral (c :: r) := by
  intro d hd
  cases hd
  exact ⟨hc, hq, hb⟩

/-- Nothing is read where a literal has ended. -/
theorem readLiteral_of_ends {s : List Char} (h : EndsLiteral s) : readLiteral s = ([], s) := by
  cases s with
  | nil => rfl
  | cons c r =>
    obtain ⟨hc, hq, hb⟩ := h c rfl
    rw [readLiteral.eq_3 c r (fun _ _ e _ => hb e), if_neg hq, if_pos hc]

theorem readLiteral_quote (r : List Char) : readLiteral ('"' :: r) = readLiteral r := by
  rw [readLiteral.eq_3 '"' r (fun _ _ e _ => absurd e (by decide)), if_pos rfl]

/-- An escaped text is read whole, and reading goes on behind it. -/
theorem readLiteral_escaped (s x : List Char) :
    readLiteral (escapeWhere needsLiteralEscape s ++ x) =
      (s ++ (readLiteral x).1, (readLiteral x).2) := by
  induction s with
  | nil => rfl
  | cons c r ih =>
    rw [escapeWhere_cons]
    by_cases hc : needsLiteralEscape c = true
    · simp only [hc, if_true, List.cons_append, List.nil_append, readLiteral, ih]
    · have hb : c ≠ '\\' := by
        rintro rfl
        exact hc (by decide)
      have hq : c ≠ '"' := by
        rintro rfl
        exact hc (by decide)
      rw [if_neg hc, List.singleton_append, List.cons_append,
        readLiteral.eq_3 c _ (fun _ _ e _ => hb e), if_neg hq, if_neg hc, ih]
      rfl

/-- A literal is read back as its text, up to where it ends. -/
theorem readLiteral_literal (s : String) {x : List Char} (hx : EndsLiteral x) :
    readLiteral ((literal s).toList ++ x) = (s.toList, x) := by
  rw [literal, String.toList_ofList, quoteSpaced]
  split
  · rw [List.cons_append, List.cons_append, readLiteral_quote, List.append_assoc,
      readLiteral_escaped, List.singleton_append, readLiteral_quote, readLiteral_of_ends hx,
      List.append_nil]
  · rw [readLiteral_escaped, readLiteral_of_ends hx, List.append_nil]

/-- Literals that stand in front of a bare character, or at the end, are equal only when their
texts are. -/
theorem literal_append_inj {s t : String} {x y : List Char} (hx : EndsLiteral x)
    (hy : EndsLiteral y) (h : (literal s).toList ++ x = (literal t).toList ++ y) :
    s = t ∧ x = y := by
  have hread := congrArg readLiteral h
  rw [readLiteral_literal s hx, readLiteral_literal t hy] at hread
  obtain ⟨hs, hxy⟩ := Prod.mk.inj hread
  exact ⟨String.toList_inj.mp hs, hxy⟩

/-- A literal starts with no bare character of the query syntax other than a quote. -/
theorem literal_head {s : String} {c : Char} {x r : List Char} (hx : EndsLiteral x)
    (h : (literal s).toList ++ x = c :: r) (hc : needsLiteralEscape c = true) (hq : c ≠ '"')
    (hb : c ≠ '\\') : s = "" ∧ x = c :: r := by
  have hread := congrArg readLiteral h
  rw [readLiteral_literal s hx, readLiteral_of_ends (endsLiteral_cons hc hq hb r)] at hread
  obtain ⟨hs, hxy⟩ := Prod.mk.inj hread
  exact ⟨String.toList_inj.mp hs, hxy⟩

end SolrRequest.Text

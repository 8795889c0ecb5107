import SolrRequest.Text.Escape

/-!
# The syntax that a query parser sees

The *skeleton* of a text is what is left of it without escaped characters, ordinary characters,
wildcards and quotes: the bare characters that could change the structure of a query. Reading goes
from left to right, and all it remembers is whether a backslash is waiting for a character
(`endsEscaped`).

* A literal has an empty skeleton and leaves no backslash waiting (`alike_literal`).
* `Alike` texts have one skeleton and leave the reader in one state. Texts stay alike in all that
  may be put behind them, and behind anything that leaves no backslash waiting (`Alike.append`,
  `Alike.behind`).
-/

namespace SolrRequest.Text

/-- A bare character with a meaning in query syntax, other than wildcards and quotes. -/
def isSyntax (c : Char) : Bool :=
  needsEscape c && c != '*' && c != '"'

/-- The skeleton of a text, read after a backslash or not. -/
def skeletonFrom (escaped : Bool) : List Char → List Char
  | [] => []
  | c :: r =>
    if escaped then skeletonFrom false r
    else if c = '\\' then skeletonFrom true r
    else if isSyntax c then c :: skeletonFrom false r
    else skeletonFrom false r

/-- A backslash is left waiting at the end of a text. -/
def endsEscaped (escaped : Bool) : List Char → Bool
  | [] => escaped
  | c :: r => endsEscaped (!escaped && c == '\\') r

def skeleton (s : String) : String :=
  String.ofList (skeletonFrom false s.toList)

example : skeleton "-a:(\"x\\ y\" b*)^2.0 \\" = "-:( )^ " := by decide

theorem skeletonFrom_append (escaped : Bool) (a b : List Char) :
    skeletonFrom escaped (a ++ b) =
      skeletonFrom escaped a ++ skeletonFrom (endsEscaped escaped a) b := by
  induction a generalizing escaped with
  | nil => rfl
  | cons c r ih =>
    cases escaped with
    | true => simp [skeletonFrom, endsEscaped, ih]
    | false =>
      by_cases hb : c = '\\'
      · simp [skeletonFrom, endsEscaped, hb, ih]
      · have hwait : (c == '\\') = false := by simpa using hb
        by_cases hs : isSyntax c = true <;>
          simp [skeletonFrom, endsEscaped, hb, hwait, hs, ih]

theorem endsEscaped_append (escaped : Bool) (a b : List Char) :
    endsEscaped escaped (a ++ b) = endsEscaped (endsEscaped escaped a) b := by
  induction a generalizing escaped with
  | nil => rfl
  | cons c r ih => simp only [List.cons_append, endsEscaped, ih]

/-! ## Literals -/

/-- An escaped text has no bare character with a meaning and no open escape. -/
theorem scan_escaped (s : List Char) :
    skeletonFrom false (escapeWhere needsLiteralEscape s) = [] ∧
      endsEscaped false (escapeWhere needsLiteralEscape s) = false := by
  induction s with
  | nil => exact ⟨rfl, rfl⟩
  | cons c r ih =>
    rw [escapeWhere_cons]
    by_cases hc : needsLiteralEscape c = true
    · simp [hc, skeletonFrom, endsEscaped, ih]
    · have hb : c ≠ '\\' := by
        rintro rfl
        exact hc (by decide)
      have hwait : (c == '\\') = false := by simpa using hb
      have hs : isSyntax c = false := by
        simp only [needsLiteralEscape, Bool.and_eq_true, bne_iff_ne, not_and] at hc
        simp only [isSyntax, Bool.and_eq_false_iff, bne_eq_false_iff_eq]
        by_cases hw : c = '*'
        · exact Or.inl (Or.inr hw)
        · exact Or.inl (Or.inl (Bool.eq_false_iff.mpr (hc hw)))
      simp [hc, skeletonFrom, endsEscaped, hb, hwait, hs, ih]

theorem scan_literal (s : String) :
    skeletonFrom false (literal s).toList = [] ∧ endsEscaped false (literal s).toList = false := by
  obtain ⟨hsk, hend⟩ := scan_escaped s.toList
  rw [literal, String.toList_ofList, quoteSpaced]
  split
  · have hquote : isSyntax '"' = false := by decide
    simp [skeletonFrom, endsEscaped, skeletonFrom_append, endsEscaped_append, hsk, hend, hquote]
  · exact ⟨hsk, hend⟩

/-! ## Texts that look alike -/

/-- Two texts have one skeleton, and what follows them is read from one state. -/
structure Alike (a b : String) : Prop where
  skeleton : skeletonFrom false a.toList = skeletonFrom false b.toList
  escaped : endsEscaped false a.toList = endsEscaped false b.toList

namespace Alike

variable {a b c d x : String}

theorem refl (a : String) : Alike a a := ⟨rfl, rfl⟩

theorem trans (h : Alike a b) (k : Alike b c) : Alike a c :=
  ⟨h.skeleton.trans k.skeleton, h.escaped.trans k.escaped⟩

/-- The same text behind both keeps them alike. -/
theorem append (h : Alike a b) (x : String) : Alike (a ++ x) (b ++ x) where
  skeleton := by
    simp only [String.toList_append, skeletonFrom_append, h.skeleton, h.escaped]
  escaped := by
    simp only [String.toList_append, endsEscaped_append, h.escaped]

/-- A text in front of both keeps them alike when it leaves no backslash waiting. -/
theorem behind (hx : endsEscaped false x.toList = false) (h : Alike a b) :
    Alike (x ++ a) (x ++ b) where
  skeleton := by
    simp only [String.toList_append, skeletonFrom_append, hx, h.skeleton]
  escaped := by
    simp only [String.toList_append, endsEscaped_append, hx, h.escaped]

end Alike

/-- Every two literals look alike. -/
theorem alike_literal (s t : String) : Alike (literal s) (literal t) where
  skeleton := (scan_literal s).1.trans (scan_literal t).1.symm
  escaped := (scan_literal s).2.trans (scan_literal t).2.symm

/-- A text that leaves no backslash waiting, whatever stood in front of it. -/
def Settles (x : String) : Prop :=
  ∀ escaped, endsEscaped escaped x.toList = false

theorem Settles.behind {x : String} (h : Settles x) (a : String) :
    endsEscaped false (a ++ x).toList = false := by
  rw [String.toList_append, endsEscaped_append]
  exact h _

end SolrRequest.Text

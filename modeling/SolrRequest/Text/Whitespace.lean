/-!
# White space and blank texts

The characters with the Unicode property `White_Space`, and the texts that hold nothing else.
A *blank* text is one that is empty once the white space at its ends is removed
(`isBlank_iff_trim`). Names, operations and raw queries are refused or skipped when blank.
-/

namespace SolrRequest.Text

/-- The ranges of the Unicode property `White_Space`, first and last code point of each. -/
def whiteSpaceRanges : List (Nat × Nat) :=
  [(0x09, 0x0D), (0x20, 0x20), (0x85, 0x85), (0xA0, 0xA0), (0x1680, 0x1680), (0x2000, 0x200A),
    (0x2028, 0x2029), (0x202F, 0x202F), (0x205F, 0x205F), (0x3000, 0x3000)]

/-- A character with the property `White_Space`. -/
def isSpace (c : Char) : Bool :=
  whiteSpaceRanges.any fun (low, high) => low ≤ c.toNat && c.toNat ≤ high

/-- The text without the white space it starts with. -/
def trimStart (s : List Char) : List Char :=
  s.dropWhile isSpace

/-- The text without the white space it ends with. -/
def trimEnd (s : List Char) : List Char :=
  (s.reverse.dropWhile isSpace).reverse

/-- The text without the white space at its ends. -/
def trim (s : List Char) : List Char :=
  trimEnd (trimStart s)

/-- A text of white space only, the empty text included. -/
def isBlank (s : String) : Bool :=
  s.toList.all isSpace

/-! ## Laws -/

theorem trimStart_eq_nil_iff {s : List Char} : trimStart s = [] ↔ s.all isSpace = true := by
  induction s with
  | nil => simp [trimStart]
  | cons c r ih =>
    unfold trimStart at ih ⊢
    by_cases h : isSpace c = true <;> simp_all

theorem trimEnd_eq_nil_iff {s : List Char} : trimEnd s = [] ↔ s.all isSpace = true := by
  have h := trimStart_eq_nil_iff (s := s.reverse)
  rw [List.all_reverse] at h
  rw [trimEnd, List.reverse_eq_nil_iff]
  exact h

/-- A text is blank exactly when trimming leaves nothing of it. -/
theorem isBlank_iff_trim {s : String} : isBlank s = true ↔ trim s.toList = [] := by
  unfold isBlank trim
  rw [trimEnd_eq_nil_iff]
  constructor
  · intro h
    rw [trimStart_eq_nil_iff.mpr h]
    rfl
  · intro h
    by_cases hnil : trimStart s.toList = []
    · exact trimStart_eq_nil_iff.mp hnil
    · have hhead : isSpace ((trimStart s.toList).head hnil) = false := by
        simpa [trimStart] using List.head_dropWhile_not isSpace hnil
      have hall := List.all_eq_true.mp h _ (List.head_mem hnil)
      rw [hhead] at hall
      cases hall

theorem isBlank_append (a b : String) : isBlank (a ++ b) = (isBlank a && isBlank b) := by
  simp only [isBlank, String.toList_append, List.all_append]

theorem isBlank_append_left {a : String} (h : isBlank a = false) (b : String) :
    isBlank (a ++ b) = false := by
  rw [isBlank_append, h, Bool.false_and]

theorem isBlank_append_right (a : String) {b : String} (h : isBlank b = false) :
    isBlank (a ++ b) = false := by
  rw [isBlank_append, h, Bool.and_false]

example : isSpace '\u200b' = false ∧ isSpace '\x1c' = false ∧ isSpace '\u0085' = true := by decide

end SolrRequest.Text

import Mathlib.Data.List.Basic
import SolrRequest.Text.Escape

/-!
# Escaping is exact

Read from left to right, a text falls into characters that are bare and characters that are
escaped, each escaped one behind a backslash of its own (`scan`). An escaped text is read as the
text that it was made from, and what stands escaped in it are the characters that have to be, and no
others (`scan_escapeWhere`). The quotes around a literal are told from quotes inside of it, which
are always escaped, so dropping them and then one backslash of each pair gives the text back
(`unescape_unquote_literal`).

Both forms are therefore injective. They are equal on the texts without wildcards and spaces, and
on no others (`literal_eq_escapeAll_iff`).
-/

namespace SolrRequest.Text

/-! ## Reading characters -/

/-- A character as it stands in a text: bare, or behind a backslash that belongs to it. -/
structure Mark where
  escaped : Bool
  char : Char
deriving Repr, DecidableEq

/-- Reads a text from left to right. A backslash goes with the character after it; when it is the
last character, there is no reading. -/
def scan : List Char → Option (List Mark)
  | [] => some []
  | ['\\'] => none
  | '\\' :: c :: r => (scan r).map (⟨true, c⟩ :: ·)
  | c :: r => (scan r).map (⟨false, c⟩ :: ·)

/-- A text is another one with exactly the characters of a class escaped. -/
def EscapesExactly (special : Char → Prop) (s t : List Char) : Prop :=
  ∃ marks, scan t = some marks ∧ marks.map (·.char) = s ∧
    ∀ m ∈ marks, m.escaped = true ↔ special m.char

/-- A reserved character, or one of white space. -/
def IsSpecial (c : Char) : Prop :=
  c ∈ reserved ∨ isSpace c = true

theorem needsEscape_iff {c : Char} : needsEscape c = true ↔ IsSpecial c := by
  rw [needsEscape, IsSpecial, Bool.or_eq_true, List.contains_iff_mem]

theorem needsLiteralEscape_iff {c : Char} :
    needsLiteralEscape c = true ↔ c ≠ '*' ∧ IsSpecial c := by
  rw [needsLiteralEscape, Bool.and_eq_true, bne_iff_ne, needsEscape_iff]

theorem scan_bare {c : Char} (h : c ≠ '\\') (r : List Char) :
    scan (c :: r) = (scan r).map (⟨false, c⟩ :: ·) := by
  rw [scan]
  · rintro rfl
    exact absurd rfl h
  · rintro d t rfl
    exact absurd rfl h

/-- The characters of a text, with those of a class marked as escaped. -/
def marksOf (special : Char → Bool) (s : List Char) : List Mark :=
  s.map fun c => ⟨special c, c⟩

section EscapeWhere

variable {special : Char → Bool}

/-- An escaped text is read whole, and reading goes on behind it. -/
theorem scan_escapeWhere_append (hb : special '\\' = true) (s x : List Char) :
    scan (escapeWhere special s ++ x) = (scan x).map (marksOf special s ++ ·) := by
  induction s with
  | nil => exact Option.map_id'.symm
  | cons c r ih =>
    have hstep : (scan (escapeWhere special r ++ x)).map (⟨special c, c⟩ :: ·) =
        (scan x).map (marksOf special (c :: r) ++ ·) := by
      rw [ih, Option.map_map]
      rfl
    rw [escapeWhere_cons, ← hstep]
    by_cases h : special c = true
    · rw [if_pos h, h]
      rfl
    · have hc : c ≠ '\\' := by
        rintro rfl
        exact h hb
      rw [if_neg h, Bool.eq_false_iff.mpr h]
      exact scan_bare hc _

theorem scan_escapeWhere (hb : special '\\' = true) (s : List Char) :
    scan (escapeWhere special s) = some (marksOf special s) := by
  have h := scan_escapeWhere_append hb s []
  rwa [List.append_nil, scan, Option.map_some, List.append_nil] at h

theorem escapesExactly_escapeWhere {P : Char → Prop} (hb : special '\\' = true)
    (hP : ∀ c, special c = true ↔ P c) (s : List Char) :
    EscapesExactly P s (escapeWhere special s) := by
  refine ⟨_, scan_escapeWhere hb s, ?_, ?_⟩
  · rw [marksOf, List.map_map]
    exact List.map_id s
  · intro m hm
    obtain ⟨c, -, rfl⟩ := List.mem_map.mp hm
    exact hP c

/-- Escaping puts in nothing but backslashes. -/
theorem mem_escapeWhere_iff {d : Char} (hd : d ≠ '\\') {s : List Char} :
    d ∈ escapeWhere special s ↔ d ∈ s := by
  have hunit : ∀ c, d ∈ (if special c then ['\\', c] else [c]) ↔ d = c := by
    intro c
    split
    · rw [List.mem_cons, List.mem_singleton, or_iff_right hd]
    · exact List.mem_singleton
  simp only [escapeWhere, List.mem_flatMap, hunit, exists_eq_right']

/-- A character that is always escaped stands at the start of no escaped text. -/
theorem head?_escapeWhere_ne {d : Char} (hd : special d = true) (hb : d ≠ '\\') (s : List Char) :
    (escapeWhere special s).head? ≠ some d := by
  cases s with
  | nil => exact nofun
  | cons c r =>
    rw [escapeWhere_cons]
    by_cases h : special c = true
    · rw [if_pos h]
      exact fun he => hb (Option.some.inj he).symm
    · rw [if_neg h]
      rintro he
      cases he
      exact h hd

theorem not_mem_marksOf {d : Char} (hd : special d = true) (s : List Char) :
    ⟨false, d⟩ ∉ marksOf special s := by
  intro h
  obtain ⟨c, -, hc⟩ := List.mem_map.mp h
  obtain ⟨hbare, rfl⟩ := Mark.mk.inj hc
  exact Bool.false_ne_true (hbare.symm.trans hd)

end EscapeWhere

/-! ## Quotes around a literal -/

/-- A text between two double quotes. -/
def IsQuoted (t : List Char) : Prop :=
  ∃ body, t = '"' :: body ++ ['"']

/-- A text without the quotes around it, which are there when it starts with one. -/
def unquote : List Char → List Char
  | '"' :: r => r.dropLast
  | s => s

/-- How many quotes of a text are not escaped. -/
def bareQuotes (t : List Char) : Option Nat :=
  (scan t).map fun marks => marks.count ⟨false, '"'⟩

theorem unquote_of_head?_ne {t : List Char} (h : t.head? ≠ some '"') : unquote t = t := by
  rw [unquote]
  rintro r rfl
  exact h rfl

/-- The text of a literal with its specials escaped, before any quotes are put around it. -/
def literalBody (s : String) : List Char :=
  escapeWhere needsLiteralEscape s.toList

theorem toList_literal_of_spaced {s : String} (h : ' ' ∈ s.toList) :
    (literal s).toList = '"' :: literalBody s ++ ['"'] := by
  have hbody : ' ' ∈ escapeWhere needsLiteralEscape s.toList :=
    (mem_escapeWhere_iff (by decide)).mpr h
  rw [literal, String.toList_ofList, quoteSpaced, if_pos (List.contains_iff_mem.mpr hbody)]
  rfl

theorem toList_literal_of_not_spaced {s : String} (h : ' ' ∉ s.toList) :
    (literal s).toList = literalBody s := by
  have hbody : ' ' ∉ escapeWhere needsLiteralEscape s.toList :=
    fun hmem => h ((mem_escapeWhere_iff (by decide)).mp hmem)
  rw [literal, String.toList_ofList, quoteSpaced, if_neg (hbody ∘ List.contains_iff_mem.mp)]
  rfl

theorem head?_literalBody_ne (s : String) : (literalBody s).head? ≠ some '"' :=
  head?_escapeWhere_ne (by decide) (by decide) _

/-- A quote at the start of a literal is one put around it: the text has a space. -/
theorem head?_literal_iff (s : String) :
    (literal s).toList.head? = some '"' ↔ ' ' ∈ s.toList := by
  by_cases h : ' ' ∈ s.toList
  · rw [toList_literal_of_spaced h]
    exact iff_of_true rfl h
  · rw [toList_literal_of_not_spaced h]
    exact iff_of_false (head?_literalBody_ne s) h

theorem isQuoted_literal_iff (s : String) : IsQuoted (literal s).toList ↔ ' ' ∈ s.toList := by
  constructor
  · rintro ⟨body, hbody⟩
    rw [← head?_literal_iff, hbody]
    rfl
  · exact fun h => ⟨_, toList_literal_of_spaced h⟩

theorem unquote_literal (s : String) : unquote (literal s).toList = literalBody s := by
  by_cases h : ' ' ∈ s.toList
  · rw [toList_literal_of_spaced h]
    exact List.dropLast_concat
  · rw [toList_literal_of_not_spaced h]
    exact unquote_of_head?_ne (head?_literalBody_ne s)

theorem scan_literalBody (s : String) :
    scan (literalBody s) = some (marksOf needsLiteralEscape s.toList) :=
  scan_escapeWhere (by decide) _

/-- The only bare quotes are those around a literal. -/
theorem bareQuotes_literal (s : String) :
    bareQuotes (literal s).toList = some (if ' ' ∈ s.toList then 2 else 0) := by
  have hinside : (marksOf needsLiteralEscape s.toList).count ⟨false, '"'⟩ = 0 :=
    List.count_eq_zero.mpr (not_mem_marksOf (by decide) _)
  unfold bareQuotes
  by_cases h : ' ' ∈ s.toList
  · have hscan : scan (literalBody s ++ ['"']) =
        some (marksOf needsLiteralEscape s.toList ++ [⟨false, '"'⟩]) :=
      scan_escapeWhere_append (by decide) _ _
    rw [toList_literal_of_spaced h, List.cons_append, scan_bare (by decide), hscan, if_pos h]
    simp only [Option.map_some, List.count_cons, List.count_append, hinside]
    rfl
  · rw [toList_literal_of_not_spaced h, scan_literalBody, Option.map_some, hinside, if_neg h]

/-! ## Undoing both forms -/

theorem unescape_escapeAll (s : String) : unescape (escapeAll s).toList = s.toList := by
  rw [escapeAll, String.toList_ofList]
  exact unescape_escapeWhere (by decide) _

theorem unescape_unquote_literal (s : String) :
    unescape (unquote (literal s).toList) = s.toList := by
  rw [unquote_literal]
  exact unescape_escapeWhere (by decide) _

theorem escapeAll_injective : Function.Injective escapeAll := by
  intro s t h
  have hlist := congrArg (fun u => unescape u.toList) h
  simp only [unescape_escapeAll] at hlist
  exact String.toList_inj.mp hlist

theorem literal_injective : Function.Injective literal := by
  intro s t h
  have hlist := congrArg (fun u => unescape (unquote u.toList)) h
  simp only [unescape_unquote_literal] at hlist
  exact String.toList_inj.mp hlist

/-- The forms differ in quotes and in wildcards, and in nothing else. -/
theorem literal_eq_escapeAll_iff (s : String) :
    literal s = escapeAll s ↔ '*' ∉ s.toList ∧ ' ' ∉ s.toList := by
  rw [← String.toList_inj, escapeAll, String.toList_ofList]
  constructor
  · intro h
    have hspace : ' ' ∉ s.toList := by
      rw [← head?_literal_iff, h]
      exact head?_escapeWhere_ne (by decide) (by decide) _
    refine ⟨fun hstar => ?_, hspace⟩
    -- equal texts are read alike, and a wildcard is escaped in one form only
    rw [toList_literal_of_not_spaced hspace] at h
    have hscan := congrArg scan h
    rw [scan_literalBody, scan_escapeWhere (by decide), Option.some_inj] at hscan
    have hwild : (⟨false, '*'⟩ : Mark) ∈ marksOf needsLiteralEscape s.toList :=
      List.mem_map.mpr ⟨'*', hstar, rfl⟩
    rw [hscan] at hwild
    exact not_mem_marksOf (by decide) _ hwild
  · rintro ⟨hstar, hspace⟩
    rw [toList_literal_of_not_spaced hspace, literalBody, escapeWhere, escapeWhere]
    refine List.flatMap_congr fun c hc => ?_
    have hne : (c != '*') = true := bne_iff_ne.mpr fun he => hstar (he ▸ hc)
    rw [needsLiteralEscape, hne, Bool.true_and]

/-- **Escaping is exact and reversible.** In both forms, the literal one taken without the quotes
around it, the special characters of the text are escaped and no others, the wildcard not being one
in a literal. A literal has quotes around it when the text has a space, and no other bare quote.
Dropping the quotes and one backslash of each pair gives the text back, so both forms are
injective; they agree on the texts without wildcards and spaces. -/
theorem escaping_exact :
    (∀ s : String,
      EscapesExactly IsSpecial s.toList (escapeAll s).toList ∧
      EscapesExactly (fun c => c ≠ '*' ∧ IsSpecial c) s.toList (unquote (literal s).toList) ∧
      (IsQuoted (literal s).toList ↔ ' ' ∈ s.toList) ∧
      ((literal s).toList.head? = some '"' ↔ ' ' ∈ s.toList) ∧
      bareQuotes (literal s).toList = some (if ' ' ∈ s.toList then 2 else 0) ∧
      unescape (escapeAll s).toList = s.toList ∧
      unescape (unquote (literal s).toList) = s.toList ∧
      (literal s = escapeAll s ↔ '*' ∉ s.toList ∧ ' ' ∉ s.toList)) ∧
    Function.Injective escapeAll ∧ Function.Injective literal := by
  refine ⟨fun s => ?_, escapeAll_injective, literal_injective⟩
  have hfull : EscapesExactly IsSpecial s.toList (escapeAll s).toList := by
    rw [escapeAll, String.toList_ofList]
    exact escapesExactly_escapeWhere (by decide) (fun _ => needsEscape_iff) _
  have hliteral : EscapesExactly (fun c => c ≠ '*' ∧ IsSpecial c) s.toList
      (unquote (literal s).toList) := by
    rw [unquote_literal]
    exact escapesExactly_escapeWhere (by decide) (fun _ => needsLiteralEscape_iff) _
  exact ⟨hfull, hliteral, isQuoted_literal_iff s, head?_literal_iff s, bareQuotes_literal s,
    unescape_escapeAll s, unescape_unquote_literal s, literal_eq_escapeAll_iff s⟩

/-- A quote at the start is no quote around the text, and neither is a tabulator a space. -/
example : scan (literal "\"a\t").toList =
    some [⟨true, '"'⟩, ⟨false, 'a'⟩, ⟨true, '\t'⟩] := by decide

end SolrRequest.Text

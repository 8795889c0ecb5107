/-!
# Runs of characters at the start of a text

A run of characters of a class that is followed by none of them is what `takeWhile` takes and
`dropWhile` leaves over. Read from the end, a text is cut in one way only at the last place of a
character (`eq_of_last`).
-/

namespace SolrRequest.Text

variable {p : Char → Bool} {a b x y : List Char}

/-- A text that does not start with a character of a class. -/
def StartsOutside (p : Char → Bool) (s : List Char) : Prop :=
  ∀ c ∈ s.head?, p c = false

theorem startsOutside_nil : StartsOutside p [] := by
  intro c hc
  cases hc

theorem startsOutside_cons {c : Char} (h : p c = false) (r : List Char) :
    StartsOutside p (c :: r) := by
  intro d hd
  cases hd
  exact h

theorem takeWhile_of_startsOutside (hx : StartsOutside p x) : x.takeWhile p = [] := by
  cases x with
  | nil => rfl
  | cons c r => rw [List.takeWhile_cons, hx c rfl]; rfl

theorem dropWhile_of_startsOutside (hx : StartsOutside p x) : x.dropWhile p = x := by
  cases x with
  | nil => rfl
  | cons c r => rw [List.dropWhile_cons, hx c rfl]; rfl

theorem takeWhile_run (ha : ∀ c ∈ a, p c = true) (hx : StartsOutside p x) :
    (a ++ x).takeWhile p = a := by
  rw [List.takeWhile_append_of_pos ha, takeWhile_of_startsOutside hx, List.append_nil]

theorem dropWhile_run (ha : ∀ c ∈ a, p c = true) (hx : StartsOutside p x) :
    (a ++ x).dropWhile p = x := by
  rw [List.dropWhile_append_of_pos ha, dropWhile_of_startsOutside hx]

/-- A text is cut in one way only into a run of a class and what starts outside of it. -/
theorem run_append_inj (ha : ∀ c ∈ a, p c = true) (hb : ∀ c ∈ b, p c = true)
    (hx : StartsOutside p x) (hy : StartsOutside p y) (h : a ++ x = b ++ y) : a = b ∧ x = y := by
  have htake := congrArg (List.takeWhile p) h
  have hdrop := congrArg (List.dropWhile p) h
  rw [takeWhile_run ha hx, takeWhile_run hb hy] at htake
  rw [dropWhile_run ha hx, dropWhile_run hb hy] at hdrop
  exact ⟨htake, hdrop⟩

/-- What follows the last place of a character. -/
theorem eq_of_last {c : Char} (ha : c ∉ a) (hb : c ∉ b) (h : x ++ c :: a = y ++ c :: b) :
    a = b := by
  have outside : ∀ l : List Char, StartsOutside (· != c) (c :: l) :=
    startsOutside_cons (bne_self_eq_false c)
  have run : ∀ l : List Char, c ∉ l → ∀ d ∈ l.reverse, (d != c) = true := by
    intro l hl d hd
    refine bne_iff_ne.mpr ?_
    rintro rfl
    exact hl (List.mem_reverse.mp hd)
  have hreverse := congrArg List.reverse h
  rw [List.reverse_append, List.reverse_append, List.reverse_cons, List.reverse_cons,
    List.append_assoc, List.append_assoc] at hreverse
  have hruns := run_append_inj (run a ha) (run b hb) (outside _) (outside _) hreverse
  exact List.reverse_inj.mp hruns.1

end SolrRequest.Text

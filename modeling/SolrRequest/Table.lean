/-!
# Tables

A table keeps a value under each of its names, in the order in which the names came first. Putting
a value under a name that is taken replaces the value in its place. `get?_insert` says what a table
holds after an insertion.
-/

namespace SolrRequest

/-- Values under names. -/
abbrev Table (α : Type) := List (String × α)

namespace Table

variable {α β : Type}

/-- The value under a name. -/
def get? (t : Table α) (name : String) : Option α :=
  match t with
  | [] => none
  | (key, value) :: r => if key = name then some value else get? r name

/-- Puts a value under a name, in place of the one that was there. -/
def insert (t : Table α) (name : String) (value : α) : Table α :=
  match t with
  | [] => [(name, value)]
  | (key, old) :: r =>
    if key = name then (key, value) :: r else (key, old) :: insert r name value

/-- A table of entries in order; of entries with one name the last value counts. -/
def ofEntries (entries : List (String × α)) : Table α :=
  entries.foldl (fun t e => insert t e.1 e.2) []

/-- The names, in order. -/
def names (t : Table α) : List String :=
  t.map Prod.fst

/-! ## Laws -/

theorem get?_insert (t : Table α) (name other : String) (value : α) :
    get? (insert t name value) other = if name = other then some value else get? t other := by
  induction t with
  | nil => simp [insert, get?]
  | cons e r ih =>
    obtain ⟨key, old⟩ := e
    by_cases hk : key = name
    · subst hk
      by_cases ho : key = other <;> simp [insert, get?, ho]
    · by_cases ho : key = other
      · subst ho
        have hn : ¬ name = key := fun e => hk e.symm
        simp [insert, get?, hk, hn]
      · simp [insert, get?, hk, ho, ih]

/-- Inserting keeps the names and adds the new one at the end when it was not there. -/
theorem names_insert (t : Table α) (name : String) (value : α) :
    names (insert t name value) = if name ∈ names t then names t else names t ++ [name] := by
  induction t with
  | nil => simp [insert, names]
  | cons e r ih =>
    obtain ⟨key, old⟩ := e
    by_cases hk : key = name
    · subst hk
      simp [insert, names]
    · have hk' : ¬ name = key := fun e => hk e.symm
      by_cases hm : name ∈ names r
      · rw [if_pos hm] at ih
        simp only [names] at ih hm
        simp [insert, names, hk, hk', hm, ih]
      · rw [if_neg hm] at ih
        simp only [names] at ih hm
        simp [insert, names, hk, hk', hm, ih]

end Table

end SolrRequest

import Mathlib.Algebra.BigOperators.Group.Finset.Basic
import Mathlib.Data.List.Induction
import SolrRequest.Request.Params

/-!
# Histories of parameters

Parameters are kept in one list, where the values of a name are scattered among those of others.
They behave as if every name had a list of its own. After a history of changes there stand under a
name the value that replaced the others last, and all values added after it
(`Params.leaves_getAll`); what the history did under other names does not matter, nor in which order
(`Params.getAll_ofChanges_swap`). The entries are counted by their names (`Params.size_eq_sum`), and
a replacement takes nothing from other names and moves nothing of theirs (`Params.kept_by_set`).
`Params.ofChanges_history` puts these together.
-/

namespace SolrRequest.Params

/-! ## Changes -/

/-- A change of parameters. -/
inductive Change where
  /-- A value is added under a name. -/
  | add (name value : String)
  /-- All values under a name are replaced by one. -/
  | set (name value : String)
deriving Repr, DecidableEq

namespace Change

def name : Change → String
  | add name _ => name
  | set name _ => name

def value : Change → String
  | add _ value => value
  | set _ value => value

/-- The values under a name are replaced. -/
def Replaces (c : Change) (name : String) : Prop :=
  ∃ value, c = set name value

/-- The values that a history gives under a name, in order. -/
def given (changes : List Change) (name : String) : List String :=
  (changes.filter fun c => c.name == name).map value

/-- What a change makes of the values under a name. -/
def after (c : Change) (name : String) (values : List String) : List String :=
  if c.name = name then
    match c with
    | add _ value => values ++ [value]
    | set _ value => [value]
  else values

/-- What a history leaves under a name: the value of the last replacement, if there is one, and
then the values that have been added since. -/
def Leaves (changes : List Change) (name : String) (values : List String) : Prop :=
  (∀ c ∈ changes, ¬c.Replaces name) ∧ values = given changes name ∨
    ∃ before value since, changes = before ++ set name value :: since ∧
      (∀ c ∈ since, ¬c.Replaces name) ∧ values = value :: given since name

theorem given_concat (changes : List Change) (c : Change) (name : String) :
    given (changes ++ [c]) name = given changes name ++ given [c] name := by
  rw [given, List.filter_append, List.map_append]
  rfl

theorem after_of_not_replaces {c : Change} {name : String} (h : ¬c.Replaces name)
    (values : List String) : c.after name values = values ++ given [c] name := by
  by_cases hname : c.name = name
  · cases c with
    | add key value => simp [after, given, hname, Change.value]
    | set key value => exact absurd ⟨value, congrArg (set · value) hname⟩ h
  · simp [after, given, hname]

theorem after_set (name value : String) (values : List String) :
    (set name value).after name values = [value] :=
  if_pos rfl

/-- Changes under different names can be exchanged. -/
theorem after_after_of_ne {a b : Change} (h : a.name ≠ b.name) (name : String)
    (values : List String) :
    a.after name (b.after name values) = b.after name (a.after name values) := by
  by_cases ha : a.name = name
  · have hb : b.name ≠ name := fun hb => h (ha.trans hb.symm)
    simp only [after, if_neg hb]
  · simp only [after, if_neg ha]

/-- One more change of a history, seen from a name. -/
theorem Leaves.concat {changes : List Change} {name : String} {values : List String}
    (h : Leaves changes name values) (c : Change) :
    Leaves (changes ++ [c]) name (c.after name values) := by
  by_cases hc : c.Replaces name
  · obtain ⟨value, rfl⟩ := hc
    refine .inr ⟨changes, value, [], rfl, List.forall_mem_nil _, ?_⟩
    rw [after_set]
    rfl
  · rw [after_of_not_replaces hc]
    have hsince : ∀ since : List Change, (∀ c ∈ since, ¬c.Replaces name) →
        ∀ d ∈ since ++ [c], ¬d.Replaces name := by
      intro since hsince
      exact List.forall_mem_append.mpr ⟨hsince, List.forall_mem_singleton.mpr hc⟩
    rcases h with ⟨hnone, rfl⟩ | ⟨before, value, since, rfl, hnone, rfl⟩
    · exact .inl ⟨hsince _ hnone, (given_concat _ _ _).symm⟩
    · refine .inr ⟨before, value, since ++ [c], ?_, hsince _ hnone, ?_⟩
      · rw [List.append_assoc, List.cons_append]
      · rw [given_concat, List.cons_append]

end Change

def apply (p : Params) : Change → Params
  | .add name value => p.add name value
  | .set name value => p.set name value

/-- The parameters after a history of changes, none being there before it. -/
def ofChanges (changes : List Change) : Params :=
  changes.foldl apply empty

theorem ofChanges_concat (changes : List Change) (c : Change) :
    ofChanges (changes ++ [c]) = (ofChanges changes).apply c := by
  rw [ofChanges, List.foldl_concat]
  rfl

/-! ## The values under a name -/

theorem getAll_apply (p : Params) (c : Change) (name : String) :
    (p.apply c).getAll name = c.after name (p.getAll name) := by
  cases c with
  | add key value =>
    by_cases hkey : key = name <;> simp [apply, getAll_add, Change.after, Change.name, hkey]
  | set key value => exact getAll_set p key value name

theorem getAll_foldl (changes : List Change) (p : Params) (name : String) :
    (changes.foldl apply p).getAll name =
      changes.foldl (fun values c => c.after name values) (p.getAll name) := by
  induction changes generalizing p with
  | nil => rfl
  | cons c r ih => rw [List.foldl_cons, ih, getAll_apply, List.foldl_cons]

theorem leaves_getAll (changes : List Change) (name : String) :
    Change.Leaves changes name ((ofChanges changes).getAll name) := by
  -- from the right, where the last change is
  induction changes using List.reverseRecOn with
  | nil => exact .inl ⟨List.forall_mem_nil _, rfl⟩
  | append_singleton changes c ih =>
    rw [ofChanges_concat, getAll_apply]
    exact ih.concat c

theorem getAll_ofChanges_swap {a b : Change} (h : a.name ≠ b.name) (before since : List Change)
    (name : String) :
    (ofChanges (before ++ a :: b :: since)).getAll name =
      (ofChanges (before ++ b :: a :: since)).getAll name := by
  rw [ofChanges, ofChanges, getAll_foldl, getAll_foldl]
  simp only [List.foldl_append, List.foldl_cons, Change.after_after_of_ne h]

theorem get?_eq_head? (p : Params) (name : String) : p.get? name = (p.getAll name).head? := by
  rw [get?, getAll, List.head?_map, List.head?_filter]

theorem contains_iff (p : Params) (name : String) :
    p.contains name = true ↔ p.getAll name ≠ [] := by
  rw [contains, getAll, List.any_eq_true, ne_eq, List.map_eq_nil_iff, List.filter_eq_nil_iff]
  simp only [not_forall, not_not, exists_prop]

/-! ## The entries -/

theorem length_getAll (p : Params) (name : String) :
    (p.getAll name).length = (p.entries.map Prod.fst).count name := by
  rw [getAll, List.length_map, ← List.countP_eq_length_filter, List.count, List.countP_map]
  rfl

theorem size_eq_sum (p : Params) :
    p.size = ∑ name ∈ (p.entries.map Prod.fst).toFinset, (p.getAll name).length := by
  simp only [length_getAll, List.sum_toFinset_count_eq_length, List.length_map]
  rfl

/-- A replacement leaves the entries of other names as they were, in their order, and puts the one
of its own name behind them. -/
theorem kept_by_set (p : Params) (name value : String) :
    ∃ kept, (p.set name value).entries = kept ++ [(name, value)] ∧ kept.Sublist p.entries ∧
      (∀ e ∈ kept, e.1 ≠ name) ∧ ∀ e, e.1 ≠ name → kept.count e = p.entries.count e := by
  refine ⟨p.entries.filter fun e => e.1 != name, rfl, List.filter_sublist, ?_, ?_⟩
  · intro e he
    exact bne_iff_ne.mp (List.mem_filter.mp he).2
  · intro e he
    exact List.count_filter (bne_iff_ne.mpr he)

/-- **Parameters are a list of values for every name.** After any history there stand under a name
the values that the history leaves there; the first of them is found, and there is one exactly when
the name is there. The entries are as many as the values under all names together. A replacement
takes nothing from other names. Neighbouring changes under different names can be exchanged. -/
theorem ofChanges_history (changes : List Change) :
    (∀ name, Change.Leaves changes name ((ofChanges changes).getAll name)) ∧
    (∀ name, (ofChanges changes).get? name = ((ofChanges changes).getAll name).head?) ∧
    (∀ name, (ofChanges changes).contains name = true ↔ (ofChanges changes).getAll name ≠ []) ∧
    (ofChanges changes).size = (ofChanges changes).entries.length ∧
    (ofChanges changes).size =
      ∑ name ∈ ((ofChanges changes).entries.map Prod.fst).toFinset,
        ((ofChanges changes).getAll name).length ∧
    (∀ name value, ∃ kept,
      (ofChanges (changes ++ [.set name value])).entries = kept ++ [(name, value)] ∧
      kept.Sublist (ofChanges changes).entries ∧ (∀ e ∈ kept, e.1 ≠ name) ∧
      ∀ e, e.1 ≠ name → kept.count e = (ofChanges changes).entries.count e) ∧
    (∀ before a b since, changes = before ++ a :: b :: since → a.name ≠ b.name →
      ∀ name, (ofChanges changes).getAll name =
        (ofChanges (before ++ b :: a :: since)).getAll name) := by
  refine ⟨leaves_getAll changes, get?_eq_head? _, contains_iff _, rfl, size_eq_sum _, ?_, ?_⟩
  · intro name value
    rw [ofChanges_concat]
    exact kept_by_set _ name value
  · rintro before a b since rfl hne name
    exact getAll_ofChanges_swap hne before since name

/-- Filters that are added and then replaced. -/
def replacedFilters : List Change :=
  [.add "q" "*:*", .add "fq" "a:1", .add "fq" "b:2", .set "fq" "c:3"]

/-- The query may as well come after the first filter. -/
theorem replacedFilters_swapped :
    let swapped : List Change := [.add "fq" "a:1", .add "q" "*:*", .add "fq" "b:2", .set "fq" "c:3"]
    (Change.add "q" "*:*").name ≠ (Change.add "fq" "a:1").name ∧
      (∀ name, (ofChanges replacedFilters).getAll name = (ofChanges swapped).getAll name) ∧
      (ofChanges swapped).getAll "fq" = ["c:3"] ∧ (ofChanges swapped).size = 2 := by
  intro swapped
  have hne : (Change.add "q" "*:*").name ≠ (Change.add "fq" "a:1").name := by decide
  obtain ⟨-, -, -, -, -, -, hswap⟩ := ofChanges_history replacedFilters
  exact ⟨hne, hswap [] _ _ _ rfl hne, by decide, by decide⟩

end SolrRequest.Params

import Mathlib.Data.List.Nodup
import SolrRequest.Proofs.Request.History

/-!
# Parameters as a JSON object

The object of parameters has a member for every name, whose value is the text alone where one value
stands under the name, and the array of all of them otherwise. No name comes twice, so no member
hides another one, and the object shows all that stands under the names (`Params.Shows`). What it
does not show is how entries of different names are mixed: two objects have the same members
exactly when the same values stand under every name (`Params.Shows.sameMembers_iff`).
-/

namespace SolrRequest

/-! ## Members and values -/

namespace Json

/-- Two objects with the same members, in any order. -/
def SameMembers (a b : Json) : Prop :=
  ∃ members others, a = .object members ∧ b = .object others ∧ members.Perm others

/-- The value of a member for the values under its name: a text for one, an array of texts for
any other number. -/
structure ShowsValues (j : Json) (values : List String) : Prop where
  single : ∀ value, values = [value] → j = .string value
  several : values.length ≠ 1 → j = .array (values.map .string)

theorem showsValues_valuesJson (values : List String) :
    ShowsValues (Params.valuesJson values) values where
  single := by
    rintro value rfl
    rfl
  several := by
    intro h
    match values with
    | [] => rfl
    | [value] => exact absurd rfl h
    | _ :: _ :: _ => rfl

theorem ShowsValues.eq {j k : Json} {values : List String} (hj : j.ShowsValues values)
    (hk : k.ShowsValues values) : j = k := by
  by_cases h : values.length = 1
  · obtain ⟨value, hvalue⟩ := List.length_eq_one_iff.mp h
    rw [hj.single value hvalue, hk.single value hvalue]
  · rw [hj.several h, hk.several h]

/-- Values can be told from what shows them: a text alone is no array. -/
theorem ShowsValues.values_eq {j : Json} {values others : List String}
    (hvalues : j.ShowsValues values) (hothers : j.ShowsValues others) : values = others := by
  by_cases h : values.length = 1 <;> by_cases h' : others.length = 1
  · obtain ⟨value, rfl⟩ := List.length_eq_one_iff.mp h
    obtain ⟨other, rfl⟩ := List.length_eq_one_iff.mp h'
    cases (hvalues.single value rfl).symm.trans (hothers.single other rfl)
    rfl
  · obtain ⟨value, rfl⟩ := List.length_eq_one_iff.mp h
    cases (hvalues.single value rfl).symm.trans (hothers.several h')
  · obtain ⟨other, rfl⟩ := List.length_eq_one_iff.mp h'
    cases (hvalues.several h).symm.trans (hothers.single other rfl)
  · have harray := Json.array.inj ((hvalues.several h).symm.trans (hothers.several h'))
    exact List.map_injective_iff.mpr (fun _ _ => Json.string.inj) harray

end Json

namespace Params

/-! ## Names -/

theorem mem_addNames {seen : List String} {entries : List (String × String)} {name : String} :
    name ∈ addNames seen entries ↔ name ∈ seen ∨ name ∈ entries.map Prod.fst := by
  induction entries generalizing seen with
  | nil => simp [addNames]
  | cons e r ih =>
    obtain ⟨key, value⟩ := e
    rw [addNames, ih, List.map_cons, List.mem_cons]
    split
    · rename_i hseen
      have hkey : key ∈ seen := List.contains_iff_mem.mp hseen
      constructor
      · rintro (h | h)
        · exact .inl h
        · exact .inr (.inr h)
      · rintro (h | rfl | h)
        · exact .inl h
        · exact .inl hkey
        · exact .inr h
    · rw [List.mem_append, List.mem_singleton, or_assoc]

theorem nodup_addNames {seen : List String} (h : seen.Nodup) (entries : List (String × String)) :
    (addNames seen entries).Nodup := by
  induction entries generalizing seen with
  | nil => exact h
  | cons e r ih =>
    rw [addNames]
    apply ih
    split
    · exact h
    · rename_i hseen
      apply List.nodup_append'.mpr
      refine ⟨h, List.nodup_singleton _, List.disjoint_singleton.mpr ?_⟩
      exact fun hmem => hseen (List.contains_iff_mem.mpr hmem)

theorem nodup_names (p : Params) : p.names.Nodup :=
  nodup_addNames List.nodup_nil p.entries

theorem mem_names {p : Params} {name : String} :
    name ∈ p.names ↔ name ∈ p.entries.map Prod.fst := by
  rw [names, mem_addNames, or_iff_right List.not_mem_nil]

theorem getAll_ne_nil_iff {p : Params} {name : String} :
    p.getAll name ≠ [] ↔ name ∈ p.entries.map Prod.fst := by
  rw [← List.length_pos_iff, length_getAll, List.count_pos_iff]

/-! ## The object -/

/-- A JSON value is an object with the names of parameters, each once, and the values under
them. -/
def Shows (p : Params) (j : Json) : Prop :=
  ∃ members, j = .object members ∧ (members.map (·.name)).Nodup ∧
    (∀ name, name ∈ members.map (·.name) ↔ name ∈ p.entries.map Prod.fst) ∧
    ∀ m ∈ members, m.value.ShowsValues (p.getAll m.name)

/-- The members for some names, which are the names of parameters in any order. -/
theorem shows_of_perm {p : Params} {names : List String} (h : names.Perm p.names) :
    p.Shows (.object (names.map fun name => ⟨name, valuesJson (p.getAll name)⟩)) := by
  have hnames : (names.map fun name => (⟨name, valuesJson (p.getAll name)⟩ : Member)).map
      (·.name) = names := by
    rw [List.map_map]
    exact List.map_id names
  refine ⟨_, rfl, ?_, ?_, ?_⟩
  · rw [hnames, h.nodup_iff]
    exact p.nodup_names
  · intro name
    rw [hnames, h.mem_iff, mem_names]
  · intro m hm
    obtain ⟨name, -, rfl⟩ := List.mem_map.mp hm
    exact Json.showsValues_valuesJson _

theorem shows_toJson (p : Params) : p.Shows p.toJson :=
  shows_of_perm (.refl _)

theorem shows_toSortedJson (p : Params) : p.Shows p.toSortedJson :=
  shows_of_perm (List.mergeSort_perm _ _)

/-- What is shown of equal values is equal. -/
theorem Shows.mem_of_mem {p q : Params} {members others : List Member}
    (hp : p.Shows (.object members)) (hq : q.Shows (.object others))
    (h : ∀ name, p.getAll name = q.getAll name) {m : Member} (hm : m ∈ members) : m ∈ others := by
  obtain ⟨_, hmembers, -, hnames, hvalues⟩ := hp
  obtain ⟨_, hothers, -, hnames', hvalues'⟩ := hq
  cases hmembers
  cases hothers
  have hmem : m.name ∈ others.map (·.name) := by
    rw [hnames', ← getAll_ne_nil_iff, ← h, getAll_ne_nil_iff, ← hnames]
    exact List.mem_map_of_mem hm
  obtain ⟨other, hother, hname⟩ := List.mem_map.mp hmem
  have hvalue : other.value = m.value := by
    apply Json.ShowsValues.eq (hvalues' other hother)
    rw [hname, ← h]
    exact hvalues m hm
  have heq : other = m := by
    cases other
    cases m
    cases hname
    cases hvalue
    rfl
  exact heq ▸ hother

/-- Objects with the same members show the same values under every name. -/
theorem Shows.sameMembers_iff {p q : Params} {j k : Json} (hp : p.Shows j) (hq : q.Shows k) :
    j.SameMembers k ↔ ∀ name, p.getAll name = q.getAll name := by
  obtain ⟨members, rfl, hnodup, hnames, hvalues⟩ := id hp
  obtain ⟨others, rfl, hnodup', hnames', hvalues'⟩ := id hq
  constructor
  · rintro ⟨_, _, hj, hk, hperm⟩ name
    cases hj
    cases hk
    by_cases hmem : name ∈ members.map (·.name)
    · obtain ⟨m, hm, rfl⟩ := List.mem_map.mp hmem
      exact (hvalues m hm).values_eq (hvalues' m (hperm.mem_iff.mp hm))
    · have hnone : p.getAll name = [] := by
        rw [← not_ne_iff, getAll_ne_nil_iff, ← hnames]
        exact hmem
      have hnone' : q.getAll name = [] := by
        rw [← not_ne_iff, getAll_ne_nil_iff, ← hnames', ← (hperm.map _).mem_iff]
        exact hmem
      rw [hnone, hnone']
  · intro h
    refine ⟨members, others, rfl, rfl, ?_⟩
    apply (List.perm_ext_iff_of_nodup hnodup.of_map hnodup'.of_map).mpr
    intro m
    exact ⟨hp.mem_of_mem hq h, hq.mem_of_mem hp fun name => (h name).symm⟩

/-! ## Sorted names -/

theorem pairwise_sorted (l : List String) :
    (l.mergeSort fun a b => decide (a ≤ b)).Pairwise (· ≤ ·) := by
  have hsorted : (l.mergeSort fun a b => decide (a ≤ b)).Pairwise
      fun a b => decide (a ≤ b) = true := by
    apply List.pairwise_mergeSort
    · intro a b c hab hbc
      exact decide_eq_true (String.le_trans (of_decide_eq_true hab) (of_decide_eq_true hbc))
    · intro a b
      rw [Bool.or_eq_true, decide_eq_true_eq, decide_eq_true_eq]
      exact String.le_total a b
  exact hsorted.imp of_decide_eq_true

/-- The order of names in a list does not matter once they are sorted. -/
theorem sorted_eq_of_perm {l k : List String} (h : l.Perm k) :
    (l.mergeSort fun a b => decide (a ≤ b)) = k.mergeSort fun a b => decide (a ≤ b) := by
  apply List.Perm.eq_of_pairwise _ (pairwise_sorted l) (pairwise_sorted k)
  · exact (List.mergeSort_perm l _).trans (h.trans (List.mergeSort_perm k _).symm)
  · intro a b _ _ hab hba
    exact String.le_antisymm hab hba

theorem perm_names {p q : Params} (h : ∀ name, p.getAll name = q.getAll name) :
    p.names.Perm q.names := by
  apply (List.perm_ext_iff_of_nodup p.nodup_names q.nodup_names).mpr
  intro name
  rw [mem_names, mem_names, ← getAll_ne_nil_iff, ← getAll_ne_nil_iff, h]

/-- With sorted names, the same members come in the same order. -/
theorem toSortedJson_eq_iff (p q : Params) :
    p.toSortedJson = q.toSortedJson ↔ ∀ name, p.getAll name = q.getAll name := by
  constructor
  · intro h
    apply ((shows_toSortedJson p).sameMembers_iff (shows_toSortedJson q)).mp
    rw [h]
    exact ⟨_, _, rfl, rfl, .refl _⟩
  · intro h
    simp only [toSortedJson, sorted_eq_of_perm (perm_names h), h]

/-! ## The view as a whole -/

/-- **The JSON object of parameters loses no value.** Its members are the names, each once, with
the text itself where one value stands under the name and else with the array of all values in
order; whether the names are sorted or stand as they come first makes no difference. So two
objects have the same members exactly when the same values stand under every name. -/
theorem toJson_faithful :
    (∀ p : Params, p.Shows p.toJson ∧ p.Shows p.toSortedJson) ∧
    (∀ p q : Params, p.toJson.SameMembers q.toJson ↔ ∀ name, p.getAll name = q.getAll name) ∧
    ∀ p q : Params, p.toSortedJson = q.toSortedJson ↔ ∀ name, p.getAll name = q.getAll name := by
  refine ⟨fun p => ⟨shows_toJson p, shows_toSortedJson p⟩, ?_, toSortedJson_eq_iff⟩
  intro p q
  exact (shows_toJson p).sameMembers_iff (shows_toJson q)

/-- A repeated name is an array at the place where it comes first. -/
example : (toJson ⟨[("fq", "a:1"), ("q", "*:*"), ("fq", "b:2")]⟩).text =
    "\x7b\"fq\":[\"a:1\",\"b:2\"],\"q\":\"*:*\"\x7d" := by decide

end Params

end SolrRequest

import Mathlib.Data.List.Forall2

/-!
# Outcomes

Two computations agree up to a relation when they fail with one error, or succeed with related
results. Steps that agree can be taken one after the other (`Agree.bind`).

A computation restricts another one by a condition when it differs from it only in failing where the
condition does not hold (`Restricts`). Restrictions add up along steps (`Restricts.bind`).

The steps along a list succeed when all of them do (`mapM_eq_ok_iff`); otherwise the first one that
fails decides the error (`mapM_eq_error_iff`).
-/

namespace SolrRequest

/-- Both fail with the same error, or both succeed and their results are related. -/
inductive Agree {ε α β : Type} (R : α → β → Prop) : Except ε α → Except ε β → Prop where
  | error (e : ε) : Agree R (.error e) (.error e)
  | ok {a : α} {b : β} (h : R a b) : Agree R (.ok a) (.ok b)

namespace Agree

variable {ε α β γ δ : Type} {R : α → β → Prop} {S : γ → δ → Prop}

theorem of_eq {R : α → α → Prop} (hR : ∀ a, R a a) {x y : Except ε α} (h : x = y) :
    Agree R x y := by
  subst h
  cases x with
  | error e => exact .error e
  | ok a => exact .ok (hR a)

theorem bind {x : Except ε α} {y : Except ε β} {f : α → Except ε γ} {g : β → Except ε δ}
    (h : Agree R x y) (hf : ∀ a b, R a b → Agree S (f a) (g b)) : Agree S (x >>= f) (y >>= g) := by
  cases h with
  | error e => exact .error e
  | ok hab => exact hf _ _ hab

/-- A common first step. -/
theorem bind_left (x : Except ε α) {f : α → Except ε γ} {g : α → Except ε δ}
    (hf : ∀ a, Agree S (f a) (g a)) : Agree S (x >>= f) (x >>= g) := by
  cases x with
  | error e => exact .error e
  | ok a => exact hf a

theorem map {x : Except ε α} {y : Except ε β} {f : α → γ} {g : β → δ} (h : Agree R x y)
    (hf : ∀ a b, R a b → S (f a) (g b)) : Agree S (f <$> x) (g <$> y) := by
  cases h with
  | error e => exact .error e
  | ok hab => exact .ok (hf _ _ hab)

theorem eq_of {R : α → α → Prop} {x y : Except ε α} (h : Agree R x y) (hR : ∀ a b, R a b → a = b) :
    x = y := by
  cases h with
  | error e => rfl
  | ok hab => exact congrArg Except.ok (hR _ _ hab)

/-- Functions that do not tell related results apart turn agreement into equality. -/
theorem map_eq {x : Except ε α} {y : Except ε β} {f : α → γ} {g : β → γ} (h : Agree R x y)
    (hf : ∀ a b, R a b → f a = g b) : x.map f = y.map g := by
  cases h with
  | error e => rfl
  | ok hab => exact congrArg Except.ok (hf _ _ hab)

end Agree

/-! ## Restricted outcomes -/

/-- The second computation is the first one with the additional demand `P`. Where the first one
fails, nothing is said about `P`, nor which error the second one has. -/
inductive Restricts {ε α : Type} (P : Prop) : Except ε α → Except ε α → Prop where
  | error (e e' : ε) : Restricts P (.error e) (.error e')
  | ok (h : P) (a : α) : Restricts P (.ok a) (.ok a)
  | refused (h : ¬P) (a : α) (e : ε) : Restricts P (.ok a) (.error e)

namespace Restricts

variable {ε α β : Type} {P Q : Prop} {x y : Except ε α}

theorem refl (h : P) (x : Except ε α) : Restricts P x x := by
  cases x with
  | error e => exact .error e e
  | ok a => exact .ok h a

theorem congr (h : Restricts P x y) (hPQ : P ↔ Q) : Restricts Q x y := by
  cases h with
  | error e e' => exact .error e e'
  | ok hP a => exact .ok (hPQ.mp hP) a
  | refused hP a e => exact .refused (hP ∘ hPQ.mpr) a e

theorem bind {f g : α → Except ε β} (h : Restricts P x y) (hf : ∀ a, Restricts Q (f a) (g a)) :
    Restricts (P ∧ Q) (x >>= f) (y >>= g) := by
  cases h with
  | error e e' => exact .error e e'
  | ok hP a => exact (hf a).congr ⟨fun hQ => ⟨hP, hQ⟩, And.right⟩
  | refused hP a e =>
    show Restricts (P ∧ Q) (f a) (.error e)
    cases f a with
    | error e' => exact .error e' e
    | ok b => exact .refused (fun h => hP h.1) b e

/-- A common first step. -/
theorem bind_left (x : Except ε α) {f g : α → Except ε β} (hf : ∀ a, Restricts P (f a) (g a)) :
    Restricts P (x >>= f) (x >>= g) :=
  ((refl trivial x).bind hf).congr (true_and P).to_iff

/-- A common last step, which cannot fail. -/
theorem bind_ok (h : Restricts P x y) (f : α → β) :
    Restricts P (x >>= fun a => .ok (f a)) (y >>= fun a => .ok (f a)) :=
  (h.bind fun a => refl trivial (.ok (f a))).congr (and_true P).to_iff

theorem mapM {P : α → Prop} {f g : α → Except ε β} {l : List α}
    (h : ∀ a ∈ l, Restricts (P a) (f a) (g a)) :
    Restricts (∀ a ∈ l, P a) (l.mapM f) (l.mapM g) := by
  induction l with
  | nil => exact .ok (List.forall_mem_nil _) []
  | cons a r ih =>
    rw [List.mapM_cons, List.mapM_cons]
    have hrest := ih fun b hb => h b (List.mem_cons_of_mem _ hb)
    have hsteps := (h a List.mem_cons_self).bind fun b => hrest.bind_ok (b :: ·)
    exact hsteps.congr List.forall_mem_cons.symm

/-- What the restricted computation gives, the other one gives as well. -/
theorem ok_of_ok (h : Restricts P x y) {a : α} (hy : y = .ok a) : x = .ok a := by
  subst hy
  cases h with
  | ok hP a => rfl

theorem error_of_error (h : Restricts P x y) {e : ε} (hx : x = .error e) :
    ∃ e', y = .error e' := by
  subst hx
  cases h with
  | error e e' => exact ⟨e', rfl⟩

/-- Where the other computation succeeds, the restricted one fails for the condition alone. -/
theorem exists_error_iff (h : Restricts P x y) {a : α} (hx : x = .ok a) :
    (∃ e, y = .error e) ↔ ¬P := by
  subst hx
  cases h with
  | ok hP a => exact iff_of_false (fun ⟨e, he⟩ => nomatch he) (not_not_intro hP)
  | refused hP a e => exact iff_of_true ⟨e, rfl⟩ hP

end Restricts

/-! ## Steps that succeed -/

section Steps

variable {ε α β : Type} {e : ε}

theorem bind_eq_ok_iff {x : Except ε α} {f : α → Except ε β} {b : β} :
    x >>= f = .ok b ↔ ∃ a, x = .ok a ∧ f a = .ok b := by
  cases x with
  | error e =>
    constructor
    · intro h
      cases h
    · rintro ⟨a, ha, -⟩
      cases ha
  | ok a =>
    refine ⟨fun h => ⟨a, rfl, h⟩, ?_⟩
    rintro ⟨a', ha, h⟩
    cases ha
    exact h

theorem map_eq_ok_iff {x : Except ε α} {f : α → β} {b : β} :
    f <$> x = .ok b ↔ ∃ a, x = .ok a ∧ f a = b := by
  cases x with
  | error e =>
    constructor
    · intro h
      cases h
    · rintro ⟨a, ha, -⟩
      cases ha
  | ok a =>
    refine ⟨fun h => ⟨a, rfl, Except.ok.inj h⟩, ?_⟩
    rintro ⟨a', ha, h⟩
    cases ha
    exact congrArg Except.ok h

variable {f : α → Except ε β} {l : List α}

theorem mapM_eq_ok_iff {m : List β} :
    l.mapM f = .ok m ↔ List.Forall₂ (fun a b => f a = .ok b) l m := by
  induction l generalizing m with
  | nil =>
    rw [List.forall₂_nil_left_iff]
    exact ⟨fun h => (Except.ok.inj h).symm, fun h => congrArg Except.ok h.symm⟩
  | cons a r ih =>
    rw [List.mapM_cons, List.forall₂_cons_left_iff]
    constructor
    · intro h
      obtain ⟨b, hb, h⟩ := bind_eq_ok_iff.mp h
      obtain ⟨bs, hbs, h⟩ := bind_eq_ok_iff.mp h
      cases h
      exact ⟨b, bs, hb, ih.mp hbs, rfl⟩
    · rintro ⟨b, bs, hb, hbs, rfl⟩
      rw [hb, ih.mpr hbs]
      rfl

theorem mapM_eq_ok_of_forall {g : α → β} (h : ∀ a ∈ l, f a = .ok (g a)) :
    l.mapM f = .ok (l.map g) := by
  rw [mapM_eq_ok_iff, List.forall₂_map_right_iff, List.forall₂_same]
  exact h

theorem exists_of_mapM_eq_ok {m : List β} (h : l.mapM f = .ok m) {a : α} (ha : a ∈ l) :
    ∃ b ∈ m, f a = .ok b := by
  rw [mapM_eq_ok_iff] at h
  induction h with
  | nil => cases ha
  | cons hb _ ih =>
    rcases List.mem_cons.mp ha with rfl | ha
    · exact ⟨_, List.mem_cons_self, hb⟩
    · obtain ⟨c, hmem, hc⟩ := ih ha
      exact ⟨c, List.mem_cons_of_mem _ hmem, hc⟩

theorem exists_of_mem_of_mapM_eq_ok {m : List β} (h : l.mapM f = .ok m) {b : β} (hb : b ∈ m) :
    ∃ a ∈ l, f a = .ok b := by
  rw [mapM_eq_ok_iff] at h
  induction h with
  | nil => cases hb
  | cons ha _ ih =>
    rcases List.mem_cons.mp hb with rfl | hb
    · exact ⟨_, List.mem_cons_self, ha⟩
    · obtain ⟨c, hmem, hc⟩ := ih hb
      exact ⟨c, List.mem_cons_of_mem _ hmem, hc⟩

theorem forM_eq_ok_iff {f : α → Except ε Unit} {l : List α} :
    l.forM f = .ok () ↔ ∀ a ∈ l, f a = .ok () := by
  induction l with
  | nil => exact iff_of_true rfl (List.forall_mem_nil _)
  | cons a r ih =>
    rw [List.forall_mem_cons, ← ih]
    show (f a >>= fun _ => r.forM f) = .ok () ↔ _
    rw [bind_eq_ok_iff]
    constructor
    · rintro ⟨u, ha, hr⟩
      exact ⟨ha, hr⟩
    · rintro ⟨ha, hr⟩
      exact ⟨(), ha, hr⟩

/-- What is kept of the results can be told from the steps. -/
theorem filterMap_of_mapM_eq_ok {γ : Type} {m : List β} (h : l.mapM f = .ok m) (g : β → Option γ) :
    m.filterMap g = l.filterMap fun a => (f a).toOption.bind g := by
  rw [mapM_eq_ok_iff] at h
  induction h with
  | nil => rfl
  | cons ha _ ih => rw [List.filterMap_cons, List.filterMap_cons, ha, ih]; rfl

/-- Nothing but the result of one step is kept. -/
theorem filterMap_eq_singleton_iff {γ : Type} {m : List β} (h : l.mapM f = .ok m)
    {g : β → Option γ} {c : γ} :
    m.filterMap g = [c] ↔ ∃ before a after, l = before ++ a :: after ∧
      (∃ b, f a = .ok b ∧ g b = some c) ∧ ∀ x ∈ before ++ after, ∃ b, f x = .ok b ∧ g b = none := by
  have hstep : ∀ a ∈ l, ∀ o, (f a).toOption.bind g = o ↔ ∃ b, f a = .ok b ∧ g b = o := by
    intro a ha o
    obtain ⟨b, -, hb⟩ := exists_of_mapM_eq_ok h ha
    rw [hb]
    refine ⟨fun ho => ⟨b, rfl, ho⟩, ?_⟩
    rintro ⟨b', hb', ho⟩
    cases hb'
    exact ho
  rw [filterMap_of_mapM_eq_ok h, List.filterMap_eq_cons_iff]
  constructor
  · rintro ⟨before, a, after, rfl, hbefore, ha, hafter⟩
    rw [List.filterMap_eq_nil_iff] at hafter
    refine ⟨before, a, after, rfl, (hstep a (by simp) _).mp ha, fun x hx => ?_⟩
    rcases List.mem_append.mp hx with hx | hx
    · exact (hstep x (by simp [hx]) _).mp (hbefore x hx)
    · exact (hstep x (by simp [hx]) _).mp (hafter x hx)
  · rintro ⟨before, a, after, rfl, ha, hothers⟩
    refine ⟨before, a, after, rfl, fun x hx => ?_, (hstep a (by simp) _).mpr ha,
      List.filterMap_eq_nil_iff.mpr fun x hx => ?_⟩
    · exact (hstep x (by simp [hx]) _).mpr (hothers x (by simp [hx]))
    · exact (hstep x (by simp [hx]) _).mpr (hothers x (by simp [hx]))

end Steps

end SolrRequest

import SolrRequest.Error

/-!
# Exact conditions of acceptance

A computation *accepts exactly* under a condition when it succeeds if the condition holds, and is
refused as an invalid argument if it does not. Steps taken one after the other accept under all
their conditions (`Accepts.bind`), and so do the steps along a list (`Accepts.mapM`).
-/

namespace SolrRequest

theorem forall_mem_some_iff {α : Type} {P : α → Prop} {a : α} :
    (∀ b ∈ some a, P b) ↔ P a := by
  refine ⟨fun h => h a rfl, fun h b hb => ?_⟩
  cases hb
  exact h

theorem forall_mem_concat {α : Type} {P : α → Prop} {l : List α} {a : α} (h : ∀ b ∈ l, P b)
    (ha : P a) : ∀ b ∈ l ++ [a], P b :=
  List.forall_mem_append.mpr ⟨h, List.forall_mem_singleton.mpr ha⟩

/-- Success exactly when `P` holds, and a refusal as an invalid argument otherwise. -/
inductive Accepts {α : Type} (P : Prop) : Except Error α → Prop where
  | ok (h : P) (a : α) : Accepts P (.ok a)
  | error (h : ¬P) {e : Error} (he : e.kind = .invalidArgument) : Accepts P (.error e)

namespace Accepts

variable {α β : Type} {P Q : Prop} {x : Except Error α}

theorem exists_ok_iff (h : Accepts P x) : (∃ a, x = .ok a) ↔ P := by
  cases h with
  | ok hP a => exact ⟨fun _ => hP, fun _ => ⟨a, rfl⟩⟩
  | error hP _ =>
    refine ⟨?_, fun h => absurd h hP⟩
    rintro ⟨a, ha⟩
    cases ha

theorem holds {a : α} (h : Accepts P (.ok a)) : P :=
  h.exists_ok_iff.mp ⟨a, rfl⟩

theorem kind_of_error {e : Error} (h : Accepts P (.error e : Except Error α)) :
    e.kind = .invalidArgument := by
  cases h with
  | error _ he => exact he

theorem congr (h : Accepts P x) (hPQ : P ↔ Q) : Accepts Q x := by
  cases h with
  | ok hP a => exact .ok (hPQ.mp hP) a
  | error hP he => exact .error (fun hQ => hP (hPQ.mpr hQ)) he

theorem always (a : α) : Accepts True (.ok a) :=
  .ok trivial a

/-- A check that throws when a condition fails. -/
theorem ite {c : Prop} [Decidable c] {e : Error} (he : e.kind = .invalidArgument) :
    Accepts (¬c) (if c then .error e else .ok ()) := by
  by_cases h : c
  · rw [if_pos h]
    exact .error (fun hn => hn h) he
  · rw [if_neg h]
    exact .ok h ()

/-- What the second step asks for may depend on what the first one gives. -/
theorem bind {f : α → Except Error β} (hx : Accepts P x)
    (hf : ∀ a, x = .ok a → Accepts Q (f a)) : Accepts (P ∧ Q) (x >>= f) := by
  cases hx with
  | ok hP a =>
    have hPQ : Q ↔ P ∧ Q := ⟨fun hQ => ⟨hP, hQ⟩, And.right⟩
    exact (hf a rfl).congr hPQ
  | error hP he => exact .error (fun h => hP h.1) he

/-- A value that may be absent, and is. -/
theorem none {P : β → Prop} (h : Accepts Q x) : Accepts ((∀ b ∈ Option.none, P b) ∧ Q) x :=
  h.congr ⟨fun hQ => ⟨nofun, hQ⟩, And.right⟩

/-- A value that may be absent, and is not. -/
theorem some {P : β → Prop} {b : β} (h : Accepts (P b ∧ Q) x) :
    Accepts ((∀ c ∈ Option.some b, P c) ∧ Q) x := by
  exact h.congr (and_congr_left fun _ => forall_mem_some_iff.symm)

/-- A run that succeeds has met the condition of its first step. -/
theorem holds_of_bind {f : α → Except Error β} {b : β} (h : Accepts P x)
    (hb : x >>= f = .ok b) : P ∧ ∃ a, f a = .ok b := by
  cases h with
  | ok hP a => exact ⟨hP, a, hb⟩
  | error hP he => cases hb

/-- A last step that cannot fail. -/
theorem bind_ok (h : Accepts P x) (f : α → β) : Accepts P (x >>= fun a => .ok (f a)) := by
  cases h with
  | ok hP a => exact .ok hP (f a)
  | error hP he => exact .error hP he

theorem map (h : Accepts P x) (f : α → β) : Accepts P (f <$> x) := by
  cases h with
  | ok hP a => exact .ok hP (f a)
  | error hP he => exact .error hP he

theorem mapM {P : α → Prop} {f : α → Except Error β} {l : List α}
    (h : ∀ a ∈ l, Accepts (P a) (f a)) : Accepts (∀ a ∈ l, P a) (l.mapM f) := by
  induction l with
  | nil => exact .ok (List.forall_mem_nil _) []
  | cons a r ih =>
    rw [List.mapM_cons]
    have hrest := ih fun b hb => h b (List.mem_cons_of_mem _ hb)
    have hsteps := (h a List.mem_cons_self).bind fun b _ => hrest.bind_ok (b :: ·)
    exact hsteps.congr List.forall_mem_cons.symm

theorem forM {P : α → Prop} {f : α → Except Error Unit} {l : List α}
    (h : ∀ a ∈ l, Accepts (P a) (f a)) : Accepts (∀ a ∈ l, P a) (l.forM f) := by
  induction l with
  | nil => exact .ok (List.forall_mem_nil _) ()
  | cons a r ih =>
    have hrest := ih fun b hb => h b (List.mem_cons_of_mem _ hb)
    exact ((h a List.mem_cons_self).bind fun _ _ => hrest).congr List.forall_mem_cons.symm

end Accepts

end SolrRequest

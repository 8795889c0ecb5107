import Mathlib.Data.List.Forall2
import SolrRequest.Proofs.Document.Edit

/-!
# Readers that are stable under edits

A reader is *stable* on a form when it reads from an edited document of the form what it reads from
the document itself, and the same where the document is held back for a tag (`Stable`).

Lists and optional values are read by stable readers when their parts are. A reader of members
*follows* the rules of a record when it takes each member by a stable reader, and the default of the
rule for a member that has been dropped (`Follows`).
-/

namespace SolrRequest

open Document

/-- An edited document, or one that has been held back or not. What is held back is readable. -/
inductive Varies (drops : Bool) (f : Form) : Document → Document → Prop where
  | same (d : Document) : Varies drops f d d
  | edited {held : Bool} {j j' : Json} (hreadable : held = true → j.isReadable = true)
      (h : Edit drops f held j j') : Varies drops f ⟨j, held⟩ ⟨j', held⟩
  | heldBack {held held' : Bool} {j : Json} (hreadable : j.isReadable = true)
      (h : AsWritten f j) : Varies drops f ⟨j, held⟩ ⟨j, held'⟩

/-- What is read from a document is read from its variants. -/
def Stable {α : Type} (drops : Bool) (read : Reader α) (f : Form) : Prop :=
  ∀ d d' a, Varies drops f d d' → read d = some a → read d' = some a

/-! ## Names -/

theorem Json.NoEmptyName.name?_eq {j : Json} (h : j.NoEmptyName) (held held' : Bool) :
    name? ⟨j, held⟩ = name? ⟨j, held'⟩ := by
  cases j with
  | object members =>
    match members with
    | [] => rfl
    | _ :: _ :: _ => rfl
    | [⟨name, v⟩] =>
      cases v with
      | object inner =>
        cases inner with
        | nil => exact absurd rfl (h name)
        | cons _ _ => rfl
      | _ => rfl
  | _ => rfl

theorem Json.NoPlace.place?_eq {j : Json} (h : j.NoPlace) (names : List String)
    (held held' : Bool) : place? names ⟨j, held⟩ = place? names ⟨j, held'⟩ := by
  cases j with
  | number n => exact absurd rfl (h n)
  | _ => rfl

/-! ## Leaves, lists and options -/

theorem Reader.optional_of_ne_null {α : Type} (read : Reader α) {d : Document}
    (h : d.value ≠ .null) : Reader.optional read d = (read d).map some := by
  unfold Reader.optional
  split
  · next hnull => exact absurd hnull h
  · rfl

theorem Reader.optional_eq_none_iff {α : Type} {read : Reader α} {d : Document} :
    Reader.optional read d = some none ↔ d.value = .null := by
  by_cases hnull : d.value = .null
  · simp [Reader.optional, hnull]
  · rw [Reader.optional_of_ne_null read hnull]
    simp [hnull]

theorem Reader.list_eq_nil_iff {α : Type} {read : Reader α} {d : Document} :
    Reader.list read d = some [] ↔ d.value = .array [] := by
  obtain ⟨j, held⟩ := d
  cases j with
  | array items =>
    cases items with
    | nil => exact iff_of_true rfl rfl
    | cons j r => simp [Reader.list, List.mapM_cons, Option.bind_eq_some_iff]
  | _ => simp [Reader.list]

/-- Items that are read as well as others give the same list. -/
theorem mapM_eq_some_of_forall₂ {α β γ : Type} {f : β → Option α} {g : γ → Option α}
    {items : List β} {items' : List γ} {l : List α}
    (h : List.Forall₂ (fun b c => ∀ a, f b = some a → g c = some a) items items')
    (hl : items.mapM f = some l) : items'.mapM g = some l := by
  induction h generalizing l with
  | nil => exact hl
  | cons hhead _ ih =>
    rw [List.mapM_cons, Option.bind_eq_bind, Option.bind_eq_some_iff] at hl
    obtain ⟨a, ha, hl⟩ := hl
    rw [Option.bind_eq_bind, Option.bind_eq_some_iff] at hl
    obtain ⟨r, hr, hl⟩ := hl
    rw [List.mapM_cons, hhead a ha, ih hr]
    exact hl

namespace Stable

variable {α : Type} {drops : Bool} {read : Reader α} {f : Form}

theorem leaf (h : ∀ j held held', read ⟨j, held⟩ = read ⟨j, held'⟩) :
    Stable drops read .leaf := by
  intro d d' a hvaries ha
  cases hvaries with
  | same d => exact ha
  | edited _ hedit => exact absurd rfl hedit.form_ne.1
  | heldBack => rwa [h]

theorem choice (names : List (String × α)) : Stable drops (Reader.choice names) .name := by
  intro d d' a hvaries ha
  cases hvaries with
  | same d => exact ha
  | edited _ hedit => exact absurd rfl hedit.form_ne.2
  | @heldBack held held' j _ hwritten =>
    cases hwritten with
    | name h => rwa [Reader.choice, h.name?_eq held' held]

theorem map {β : Type} (g : α → β) (h : Stable drops read f) :
    Stable drops (fun d => (read d).map g) f := by
  intro d d' b hvaries hb
  obtain ⟨a, ha, rfl⟩ := Option.map_eq_some_iff.mp hb
  exact Option.map_eq_some_iff.mpr ⟨a, h d d' a hvaries ha, rfl⟩

theorem optional (h : Stable drops read f) : Stable drops (Reader.optional read) (.optional f) := by
  intro d d' a hvaries ha
  have hpresent : ∀ {d d'}, Varies drops f d d' → d.value ≠ .null → d'.value ≠ .null →
      Reader.optional read d = some a → Reader.optional read d' = some a := by
    intro d d' hvaries hd hd' ha
    rw [Reader.optional_of_ne_null read hd] at ha
    rw [Reader.optional_of_ne_null read hd']
    exact h.map some d d' a hvaries ha
  cases hvaries with
  | same d => exact ha
  | edited hreadable hedit =>
    cases hedit with
    | permuted hknown | added _ _ hknown | removed _ _ hknown => cases hknown
    | inOptional hedit =>
      exact hpresent (.edited hreadable hedit) hedit.ne_null.1 hedit.ne_null.2 ha
  | @heldBack held held' j hreadable hwritten =>
    cases hwritten with
    | optional hwritten =>
      by_cases hnull : j = .null
      · subst hnull
        exact ha
      · exact hpresent (.heldBack hreadable hwritten) hnull hnull ha

theorem list (h : Stable drops read f) : Stable drops (Reader.list read) (.list f) := by
  intro d d' l hvaries hl
  have hitems : ∀ {items items' : List Json} {held held' : Bool},
      List.Forall₂ (fun j j' => Varies drops f ⟨j, held⟩ ⟨j', held'⟩) items items' →
      Reader.list read ⟨.array items, held⟩ = some l →
      Reader.list read ⟨.array items', held'⟩ = some l :=
    fun hitems => mapM_eq_some_of_forall₂ (hitems.imp fun j j' hj a => h _ _ a hj)
  cases hvaries with
  | same d => exact hl
  | @edited held j j' hreadable hedit =>
    cases hedit with
    | permuted hknown | added _ _ hknown | removed _ _ hknown => cases hknown
    | inItem before after hedit =>
      have hsame : ∀ items : List Json, List.Forall₂
          (fun j j' => Varies drops f ⟨j, held⟩ ⟨j', held⟩) items items :=
        fun items => List.forall₂_same.mpr fun j _ => .same ⟨j, held⟩
      refine hitems (List.rel_append (hsame before) (.cons (.edited ?_ hedit) (hsame after))) hl
      intro hheld
      have hall := Json.isReadable_array_iff.mp (hreadable hheld)
      exact hall _ (List.mem_append_right _ List.mem_cons_self)
  | @heldBack held held' j hreadable hwritten =>
    cases hwritten with
    | list hwritten =>
      cases j with
      | array items =>
        refine hitems (List.forall₂_same.mpr fun item hitem => ?_) hl
        exact .heldBack (Json.isReadable_array_iff.mp hreadable item hitem)
          (hwritten items rfl item hitem)
      | _ => cases hl

end Stable

/-! ## Members of records -/

/-- What becomes of a member of a record: it stays, or it is dropped where it reads to its
default. -/
inductive MemberVaries (drops : Bool) (rule : MemberRule) :
    Option Document → Option Document → Prop where
  | absent : MemberVaries drops rule none none
  | given {d d' : Document} (h : Varies drops rule.form d d') :
      MemberVaries drops rule (some d) (some d')
  | dropped {d : Document} (h : rule.Default d) : MemberVaries drops rule (some d) none

theorem MemberVaries.same {drops : Bool} {rule : MemberRule} (o : Option Document) :
    MemberVaries drops rule o o := by
  cases o with
  | none => exact .absent
  | some d => exact .given (.same d)

/-- What becomes of the members of a record. -/
def Members.Vary (drops : Bool) (rules : List MemberRule) (m m' : Members) : Prop :=
  ∀ rule ∈ rules, MemberVaries drops rule (m.lookup rule.name) (m'.lookup rule.name)

/-- A reader of members depends on the members in the rules only, by stable readers that take the
default for what is dropped. -/
def Follows {α : Type} (drops : Bool) (rules : List MemberRule) (body : Members → Option α) :
    Prop :=
  ∀ m m' a, Members.Vary drops rules m m' → body m = some a → body m' = some a

namespace Follows

variable {α β : Type} {drops : Bool} {rules : List MemberRule} {name : String} {form : Form}
  {read : Reader α} {body : Members → Option α} {rest : α → Members → Option β}

theorem pure (b : β) : Follows drops rules fun _ => some b :=
  fun _ _ _ _ h => h

theorem bind (hbody : Follows drops rules body) (hrest : ∀ a, Follows drops rules (rest a)) :
    Follows drops rules fun m => body m >>= fun a => rest a m := by
  intro m m' b hvary hb
  obtain ⟨a, ha, hb⟩ := Option.bind_eq_some_iff.mp hb
  exact Option.bind_eq_some_iff.mpr ⟨a, hbody m m' a hvary ha, hrest a m m' b hvary hb⟩

/-- A member that has to be given. -/
theorem member (i : Nat) (hrule : rules[i]? = some (.required name form))
    (hread : Stable drops read form) : Follows drops rules fun m => m.required name read := by
  intro m m' a hvary ha
  have hmember : MemberVaries drops (.required name form) (m.lookup name) (m'.lookup name) :=
    hvary _ (List.mem_of_getElem? hrule)
  simp only [Members.required] at ha ⊢
  generalize m.lookup name = o at hmember ha
  generalize m'.lookup name = o' at hmember
  cases hmember with
  | absent => cases ha
  | given hvaries => exact hread _ _ a hvaries ha
  | dropped hdefault => exact hdefault.elim

/-- A member with a default, which is all that the documents of the default are read to. -/
theorem memberWithDefault (i : Nat) {default : α} {readDefault : Reader α}
    (hrule : rules[i]? = some (.withDefault name form default readDefault))
    (hread : Stable drops read form)
    (hdefault : ∀ d a, readDefault d = some default → read d = some a → a = default) :
    Follows drops rules fun m => m.withDefault name default read := by
  intro m m' a hvary ha
  have hmember : MemberVaries drops (.withDefault name form default readDefault)
      (m.lookup name) (m'.lookup name) := hvary _ (List.mem_of_getElem? hrule)
  simp only [Members.withDefault] at ha ⊢
  generalize m.lookup name = o at hmember ha
  generalize m'.lookup name = o' at hmember
  cases hmember with
  | absent => exact ha
  | given hvaries => exact hread _ _ a hvaries ha
  | dropped h => rw [hdefault _ a h ha]

theorem required (i : Nat) (hrule : rules[i]? = some (.required name form))
    (hread : Stable drops read form) (hrest : ∀ a, Follows drops rules (rest a)) :
    Follows drops rules fun m => m.required name read >>= fun a => rest a m :=
  (member i hrule hread).bind hrest

theorem withDefault (i : Nat) {default : α} {readDefault : Reader α}
    (hrule : rules[i]? = some (.withDefault name form default readDefault))
    (hread : Stable drops read form)
    (hdefault : ∀ d a, readDefault d = some default → read d = some a → a = default)
    (hrest : ∀ a, Follows drops rules (rest a)) :
    Follows drops rules fun m => m.withDefault name default read >>= fun a => rest a m :=
  (memberWithDefault i hrule hread hdefault).bind hrest

/-- A member whose default is given by the reader itself. -/
theorem plain (i : Nat) {default : α}
    (hrule : rules[i]? = some (.withDefault name form default read))
    (hread : Stable drops read form) (hrest : ∀ a, Follows drops rules (rest a)) :
    Follows drops rules fun m => m.withDefault name default read >>= fun a => rest a m :=
  withDefault i hrule hread (fun _ _ h ha => Option.some.inj (ha.symm.trans h)) hrest

theorem optional {readDefault : Reader α} {rest : Option α → Members → Option β} (i : Nat)
    (hrule : rules[i]? = some (.optional name form readDefault))
    (hread : Stable drops read form) (hrest : ∀ a, Follows drops rules (rest a)) :
    Follows drops rules fun m =>
      m.withDefault name none (Reader.optional read) >>= fun a => rest a m := by
  refine withDefault i hrule hread.optional (fun d a h ha => ?_) hrest
  rw [Reader.optional_eq_none_iff] at h
  rw [Reader.optional_eq_none_iff.mpr h] at ha
  exact (Option.some.inj ha).symm

theorem list {readDefault : Reader α} {rest : List α → Members → Option β} (i : Nat)
    (hrule : rules[i]? = some (.list name form readDefault))
    (hread : Stable drops read form) (hrest : ∀ a, Follows drops rules (rest a)) :
    Follows drops rules fun m =>
      m.withDefault name [] (Reader.list read) >>= fun a => rest a m := by
  refine withDefault i hrule hread.list (fun d l h hl => ?_) hrest
  rw [Reader.list_eq_nil_iff] at h
  rw [Reader.list_eq_nil_iff.mpr h] at hl
  exact (Option.some.inj hl).symm

end Follows

end SolrRequest
